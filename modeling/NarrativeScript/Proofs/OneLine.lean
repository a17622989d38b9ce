import Mathlib.Data.Nat.Digits.Defs
import NarrativeScript.Dice.Prepared
import NarrativeScript.Proofs.Authored
import NarrativeScript.Proofs.Unquoting

/-!
# Messages are single lines

A script may hold any characters, and a message shows parts of it. Excerpts are
quoted, and every character that breaks a line is escaped there, because none of
them is printable. What a message shows unquoted are words: the ones that the
language itself has, a type, or an operand. Characters that break a line are
blanks, so no word holds one, at any depth of nesting.
-/

namespace NarrativeScript.Text

/-- Line feed to carriage return, the file, group and record separators, the next-line character, and
the line and paragraph separators. -/
def isLineBreak (character : Char) : Bool :=
  let code := character.toNat
  (0x0A ≤ code && code ≤ 0x0D) || (0x1C ≤ code && code ≤ 0x1E) || code == 0x85 || code == 0x2028 ||
    code == 0x2029

def IsOneLine (text : String) : Prop :=
  ∀ character ∈ text.toList, isLineBreak character = false

instance : DecidablePred IsOneLine := fun text => List.decidableBAll _ text.toList

theorem isLineBreak_iff {character : Char} :
    isLineBreak character = true ↔
      0x0A ≤ character.toNat ∧ character.toNat ≤ 0x0D ∨
        0x1C ≤ character.toNat ∧ character.toNat ≤ 0x1E ∨ character.toNat = 0x85 ∨
          character.toNat = 0x2028 ∨ character.toNat = 0x2029 := by
  simp [isLineBreak, or_assoc]

theorem isBlank_of_isLineBreak {character : Char} (h : isLineBreak character = true) :
    isBlank character = true := by
  rw [isLineBreak_iff] at h
  simp only [isBlank, isSpace, Bool.or_eq_true, Bool.and_eq_true, decide_eq_true_eq, beq_iff_eq]
  omega

theorem not_isPrintable_of_isLineBreak {character : Char} (h : isLineBreak character = true) :
    isPrintable character = false := by
  have within : ∃ range ∈ nonPrintableRanges,
      range.1 ≤ character.toNat ∧ character.toNat ≤ range.2 := by
    rcases isLineBreak_iff.1 h with ⟨-, high⟩ | ⟨-, high⟩ | same | same | same
    · exact ⟨(0x0, 0x1F), by decide +kernel, Nat.zero_le _, by omega⟩
    · exact ⟨(0x0, 0x1F), by decide +kernel, Nat.zero_le _, by omega⟩
    · exact ⟨(0x7F, 0xA0), by decide +kernel, by omega, by omega⟩
    · exact ⟨(0x2028, 0x202F), by decide +kernel, by omega, by omega⟩
    · exact ⟨(0x2028, 0x202F), by decide +kernel, by omega, by omega⟩
  rw [isPrintable, withinRanges_iff.2 within]
  rfl

theorem IsOneLine.append {first second : String} (h : IsOneLine first) (later : IsOneLine second) :
    IsOneLine (first ++ second) := by
  rw [IsOneLine, String.toList_append]
  exact List.forall_mem_append.2 ⟨h, later⟩

theorem IsWord.isOneLine {token : String} (h : IsWord token) : IsOneLine token := by
  intro character inside
  cases breaks : isLineBreak character with
  | false => rfl
  | true =>
      have blank := isBlank_of_isLineBreak breaks
      rw [h.2 character inside] at blank
      cases blank

theorem isOneLine_nat (number : Nat) : IsOneLine (toString number) := by
  intro character inside
  rw [Nat.toString_eq_repr, Nat.toList_repr] at inside
  have digit := Nat.isDigit_of_mem_toDigits (by decide) (by decide) inside
  cases breaks : isLineBreak character with
  | false => rfl
  | true =>
      have code := isLineBreak_iff.1 breaks
      simp only [Char.isDigit, Bool.and_eq_true, decide_eq_true_eq] at digit
      have low : '0'.toNat ≤ character.toNat := digit.1
      have high : character.toNat ≤ '9'.toNat := digit.2
      rw [show '0'.toNat = 48 from rfl] at low
      rw [show '9'.toNat = 57 from rfl] at high
      omega

theorem isOneLine_int (number : Int) : IsOneLine (toString number) := by
  cases number with
  | ofNat number => exact isOneLine_nat number
  | negSucc number => exact IsOneLine.append (by decide) (isOneLine_nat (number + 1))

/-- A character that breaks a line is not printable, so it is escaped. -/
theorem isOneLine_quoted (text : String) : IsOneLine (quoted text) := by
  intro character inside
  cases breaks : isLineBreak character with
  | false => rfl
  | true =>
      have printable := isPrintable_of_mem_quoted inside
      rw [not_isPrintable_of_isLineBreak breaks] at printable
      cases printable

end NarrativeScript.Text

namespace NarrativeScript

open NarrativeScript.Text

/-! ### Messages -/

/-- The words that the message shows as they are. -/
def Fault.bare : Fault → List String
  | .wrongArity word _ _ => [word]
  | .missingToken word token => [word, token]
  | .misplacedToken first later => [first, later]
  | _ => []

/-- The words that the message shows as they are. -/
def Failure.bare : Failure → List String
  | .format fault _ => fault.bare
  | .unknownType word => [word]
  | .undefinedValue operand => [operand]
  | _ => []

theorem Fault.isOneLine_message {fault : Fault} (h : ∀ word ∈ fault.bare, IsOneLine word) :
    IsOneLine fault.message := by
  cases fault with
  | wrongArity word expected given =>
      have name := h word (by simp [Fault.bare])
      show IsOneLine (word ++ " expects " ++ toString expected ++ " parameter(s), got " ++
        toString given)
      exact (((name.append (by decide)).append (isOneLine_int _)).append (by decide)).append
        (isOneLine_nat _)
  | missingToken word token =>
      have name := h word (by simp [Fault.bare])
      have missing := h token (by simp [Fault.bare])
      show IsOneLine (word ++ " instruction requires a " ++ token ++ " token")
      exact ((name.append (by decide)).append missing).append (by decide)
  | misplacedToken first later =>
      have early := h first (by simp [Fault.bare])
      have late := h later (by simp [Fault.bare])
      exact (late.append (by decide)).append early
  | _ => decide

theorem Misfit.isOneLine_message (cause : Misfit) : IsOneLine cause.message := by
  cases cause with
  | missing => decide
  | notTwo given =>
      rw [Misfit.message]
      split
      · show IsOneLine ("not enough values to unpack (expected 2, got " ++ toString given ++ ")")
        exact (IsOneLine.append (by decide) (isOneLine_nat _)).append (by decide)
      · decide
  | absent token => exact (isOneLine_quoted token).append (by decide)

/-- Only the words that a message shows as they are could break its line. -/
theorem Failure.isOneLine_message {failure : Failure} (h : ∀ word ∈ failure.bare, IsOneLine word) :
    IsOneLine failure.message := by
  cases failure with
  | format fault excerpt =>
      exact ((Fault.isOneLine_message h).append (by decide)).append (isOneLine_quoted _)
  | unknownType word =>
      show IsOneLine ("Unknown instruction type: " ++ word)
      exact IsOneLine.append (by decide) (h word List.mem_cons_self)
  | undefinedValue operand =>
      show IsOneLine ("Undefined value: " ++ operand)
      exact IsOneLine.append (by decide) (h operand List.mem_cons_self)
  | depthExceeded depth limit =>
      show IsOneLine ("IF nesting depth " ++ toString depth ++ " exceeds limit " ++ toString limit)
      exact ((IsOneLine.append (by decide) (isOneLine_int _)).append (by decide)).append
        (isOneLine_int _)
  | oversizedInteger => decide
  | limitOutOfRange limit =>
      show IsOneLine ("max_depth must be between 1 and " ++ toString Depth.ceiling ++ ", got " ++
        toString limit)
      exact ((IsOneLine.append (by decide) (isOneLine_nat _)).append (by decide)).append
        (isOneLine_int _)
  | emptyStatement => decide
  | misfit cause => exact cause.isOneLine_message

/-- What the message shows unquoted are words. -/
def Failure.ShowsWords (failure : Failure) : Prop :=
  ∀ word ∈ failure.bare, IsWord word

namespace Failure

theorem ShowsWords.isOneLine {failure : Failure} (h : failure.ShowsWords) :
    IsOneLine failure.message :=
  isOneLine_message fun word member => (h word member).isOneLine

theorem showsWords_of_bare_eq_nil {failure : Failure} (h : failure.bare = []) :
    failure.ShowsWords := by
  intro word member
  rw [h] at member
  cases member

end Failure

namespace Condition

/-- A condition is quoted where it fails, whatever it holds. -/
theorem bare_of_evaluateTokens {state : State} {tokens : List String} {failure : Failure}
    (h : evaluateTokens state tokens = .error failure) : failure.bare = [] := by
  obtain ⟨group, failed⟩ := exists_of_evaluateTokens_error h
  rcases evaluateTerm_error failed with rfl | rfl <;> rfl

end Condition

namespace Script

/-- The tokens that a check names. -/
def Requirement.named : Requirement → List String
  | .arity _ => []
  | .present token => [token]
  | .ordered first later => [first, later]

theorem Requirement.mem_bare_of_check {type : String} {params : List String}
    {requirement : Requirement} {failure : Failure}
    (h : requirement.check type params = .error failure) {word : String}
    (member : word ∈ failure.bare) : word = type ∨ word ∈ requirement.named := by
  cases requirement with
  | arity count =>
      simp only [Requirement.check] at h
      split at h
      · cases h
      · cases h
        exact .inl (List.mem_singleton.1 member)
  | present token =>
      simp only [Requirement.check] at h
      split at h
      · cases h
      · cases h
        exact List.mem_cons.1 member
  | ordered first later =>
      simp only [Requirement.check] at h
      split at h
      · cases h
      · cases h
        exact .inr member

theorem Instruction.isWord_of_mem_named {instruction : Instruction} {requirement : Requirement}
    (required : requirement ∈ instruction.requirements) {word : String}
    (member : word ∈ requirement.named) : IsWord word := by
  have all : ∀ instruction ∈ Instruction.all, ∀ requirement ∈ instruction.requirements,
      ∀ word ∈ requirement.named, IsWord word := by decide +kernel
  exact all instruction (Instruction.mem_all instruction) requirement required word member

theorem Instruction.showsWords_of_check {instruction : Instruction} {params : List String}
    {failure : Failure} (h : instruction.check params = .error failure) : failure.ShowsWords := by
  obtain ⟨requirement, required, failed⟩ := Requirement.exists_of_checkAll_error h
  intro word member
  rcases Requirement.mem_bare_of_check failed member with rfl | named
  · exact instruction.isToken_word.isWord
  · exact Instruction.isWord_of_mem_named required named

theorem Instruction.bare_of_ofType {type : String} {failure : Failure}
    (h : Instruction.ofType type = .error failure) : failure.bare = [type] := by
  unfold Instruction.ofType at h
  split at h
  · cases h
  · cases h
    rfl

theorem Line.showsWords_of_turn {state : State} {line : Line} {failure : Failure}
    (solid : ∀ token ∈ line.tokens, IsWord token) (h : line.turn state = .fail failure) :
    failure.ShowsWords := by
  rcases Line.turn_fail_cases h with
    rfl | ⟨type, inside, typed⟩ | ⟨instruction, params, checked⟩ | ⟨tokens, evaluated⟩
  · exact Failure.showsWords_of_bare_eq_nil rfl
  · intro word member
    rw [Instruction.bare_of_ofType typed, List.mem_singleton] at member
    rw [member]
    exact solid type inside
  · exact Instruction.showsWords_of_check checked
  · exact Failure.showsWords_of_bare_eq_nil (Condition.bare_of_evaluateTokens evaluated)

theorem Context.bare_of_nested {context : Context} {failure : Failure}
    (h : context.nested = .error failure) : failure.bare = [] := by
  rw [(Context.nested_eq_error_iff.1 h).2]
  rfl

/-- The tokens of a branch are tokens of its statement, so they are words at every depth. -/
theorem showsWords_of_descend {context : Context} {state : State} {line : Line} {failure : Failure}
    (solid : ∀ token ∈ line.tokens, IsWord token)
    (h : descend context state line = .error failure) : failure.ShowsWords := by
  rcases descend_error h with ⟨deeper, within, failed⟩ | ⟨inner, refused⟩
  · exact Line.showsWords_of_turn (fun token member => solid token (within token member)) failed
  · exact Failure.showsWords_of_bare_eq_nil (Context.bare_of_nested refused)

theorem mem_bare_of_operandNumber {state : State} {token : String} {failure : Failure}
    (h : operandNumber state token = .error failure) {word : String}
    (member : word ∈ failure.bare) : word = token := by
  rcases operandNumber_cases state token with
    ⟨-, number, accepted⟩ | ⟨-, refused⟩ | ⟨-, -, refused⟩
  · rw [accepted] at h
    cases h
  · rw [refused] at h
    cases h
    cases member
  · rw [refused] at h
    cases h
    exact List.mem_singleton.1 member

theorem mem_bare_of_calculate {state : State} {operation : Number.Operation} {left right : String}
    {failure : Failure} (h : calculate state operation left right = .error failure) {word : String}
    (member : word ∈ failure.bare) : word = left ∨ word = right := by
  unfold calculate at h
  cases first : operandNumber state left with
  | error cause =>
      rw [first] at h
      cases h
      exact .inl (mem_bare_of_operandNumber first member)
  | ok here =>
      cases second : operandNumber state right with
      | error cause =>
          simp only [first, second] at h
          cases h
          exact .inr (mem_bare_of_operandNumber second member)
      | ok there =>
          simp only [first, second] at h
          split at h
          · cases h
          · cases h
            cases member

namespace Action

variable {σ : Type} [Dice.Source σ]

/-- What is refused is quoted, but for an operand of arithmetic. -/
theorem mem_params_of_mem_bare {action : Action} {state : State} {source : σ} {failure : Failure}
    (h : action.written state source = .error failure) {word : String}
    (member : word ∈ failure.bare) : word ∈ action.params := by
  have quoted : ∀ params, failure = .format .falseValue (.words params) → word ∈ action.params := by
    rintro params rfl
    cases member
  cases action with
  | goto destination => exact quoted _ (accept_error h)
  | set key content => exact quoted _ (accept_error h)
  | copy origin key => exact quoted _ (accept_error h)
  | roll size key =>
      unfold written at h
      dsimp only at h
      split at h
      · cases h
        cases member
      · cases h
  | arithmetic operation left right =>
      unfold written at h
      dsimp only at h
      cases computed : calculate state operation left right with
      | ok result =>
          rw [computed] at h
          cases h
      | error cause =>
          rw [computed] at h
          cases h
          rcases mem_bare_of_calculate computed member with rfl | rfl
          · exact List.mem_cons_self
          · exact List.mem_cons_of_mem left List.mem_cons_self

end Action

variable {σ : Type} [Dice.Source σ]

theorem showsWords_of_runLine {context : Context} {line : Line} {session : Session σ}
    {failure : Failure} (solid : ∀ token ∈ line.tokens, IsWord token)
    (h : (runLine context line session).failure? = some failure) : failure.ShowsWords := by
  rcases runLine_failure h with failed | ⟨action, target, failed⟩
  · exact showsWords_of_descend solid failed
  · obtain ⟨-, params⟩ := mem_of_descend target
    intro word member
    exact solid word (params word (Action.mem_params_of_mem_bare failed member))

theorem showsWords_of_run {context : Context} {script : Option String} {session : Session σ}
    {failure : Failure} (h : (run context script session).failure? = some failure) :
    failure.ShowsWords := by
  rw [run_eq] at h
  obtain ⟨before, piece, after, reached, cut, -, failed, -⟩ := runPieces_stops _ h
  rw [runPiece_eq_runLine (not_mem_of_pieces_eq cut)] at failed
  exact showsWords_of_runLine (fun token member => isWord_of_mem_words member) failed

theorem showsWords_of_process {limit : Int} {script : Option String} {session : Session σ}
    {failure : Failure} (h : (process limit script session).failure? = some failure) :
    failure.ShowsWords := by
  unfold process at h
  split at h
  · exact showsWords_of_run h
  · cases h
    exact Failure.showsWords_of_bare_eq_nil rfl

/-- Whatever a condition or a script holds, the message of the failure that it ends with has no
character that breaks a line. -/
theorem no_message_breaks_its_line :
    (∀ (state : State) (expression : String) (failure : Failure),
      Condition.evaluate state expression = .error failure → IsOneLine failure.message) ∧
    ∀ (limit : Int) (script : Option String) (session : Session σ) (failure : Failure),
      (process limit script session).failure? = some failure → IsOneLine failure.message := by
  constructor
  · intro state expression failure failed
    have quoted : failure.bare = [] := Condition.bare_of_evaluateTokens failed
    exact (Failure.showsWords_of_bare_eq_nil quoted).isOneLine
  · intro limit script session failure failed
    exact (showsWords_of_process failed).isOneLine

/-- A statement that is too short is shown with its line breaks escaped. In a condition they only
separate words. -/
theorem raw_line_breaks_are_escaped :
    let session : Session Dice.Prepared := ⟨.empty, ⟨[]⟩⟩
    let piece := "\nGOTO\u2028\u0085"
    ¬ IsOneLine piece ∧
      (∃ failure, Condition.evaluate .empty "door\nIS\u2028IS" = .error failure ∧
        IsOneLine failure.message) ∧
      (process 32 (some ("SET door open;" ++ piece)) session).failure? =
          some (.format .shortStatement (.text piece)) ∧
        IsOneLine (Failure.format .shortStatement (.text piece)).message := by
  intro session piece
  obtain ⟨conditions, scripts⟩ := @no_message_breaks_its_line Dice.Prepared _
  have malformed : Condition.evaluate .empty "door\nIS\u2028IS" =
      .error (.format .malformedTerm (.text "door IS IS")) := by decide +kernel
  have short : (process 32 (some ("SET door open;" ++ piece)) session).failure? =
      some (.format .shortStatement (.text piece)) := by decide +kernel
  exact ⟨by decide, ⟨_, malformed, conditions _ _ _ malformed⟩, short, scripts _ _ _ _ short⟩

end Script

end NarrativeScript
