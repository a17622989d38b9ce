import NarrativeScript.Proofs.Counter
import NarrativeScript.Proofs.Equality
import NarrativeScript.Proofs.Sequence

/-!
# Integer literals

An integer literal is an optional sign and digits, no more of them than the
limit, with nothing but blanks around them. Its numeric reading and its canonical
form are the integer that the digits write. So arithmetic takes the same number
from a literal in a statement and from a key that the literal was stored under,
and where it refuses one it refuses the other, for the same cause and at the same
place.
-/

namespace NarrativeScript

namespace Number

open NarrativeScript.Text

/-- The characters are a sign and digits, no more of them than the limit, and these write the
number. -/
def SpellsInteger (characters : List Char) (number : Int) : Prop :=
  ∃ sign digits, IsSign sign ∧ IsDigits digits ∧ digits.length ≤ Numeral.integerDigitLimit ∧
    characters = sign ++ digits ∧
    number = if sign = ['-'] then -(Nat.ofDigitChars 10 digits 0 : Int)
      else Nat.ofDigitChars 10 digits 0

theorem SpellsInteger.spellsPlain {characters : List Char} {number : Int}
    (h : SpellsInteger characters number) : SpellsPlain characters := by
  obtain ⟨sign, digits, isSign, isDigits, -, rfl, -⟩ := h
  exact ⟨sign, digits, [], isSign, isDigits, .inl rfl, (List.append_nil _).symm⟩

theorem filterMap_asciiDigit? {digits : List Char}
    (ascii : ∀ character ∈ digits, '0' ≤ character ∧ character ≤ '9') :
    digits.filterMap asciiDigit? = digits.map fun character => character.toNat - '0'.toNat := by
  rw [← List.filterMap_eq_map]
  refine List.filterMap_congr fun character inside => ?_
  rw [asciiDigit?, if_pos (ascii character inside)]
  rfl

theorem ofDigits_filterMap {digits : List Char}
    (ascii : ∀ character ∈ digits, '0' ≤ character ∧ character ≤ '9') :
    ofDigits 10 (digits.filterMap asciiDigit?) = Nat.ofDigitChars 10 digits 0 := by
  rw [filterMap_asciiDigit? ascii, ofDigits, List.foldl_map, Nat.ofDigitChars]
  simp only [Nat.mul_comm]

theorem takeSign_fst {sign whole : List Char} (isSign : IsSign sign) (isDigits : IsDigits whole)
    (rest : List Char) : (takeSign (sign ++ (whole ++ rest))).1 = decide (sign = ['-']) := by
  rcases isSign with rfl | rfl | rfl
  · obtain ⟨first, later, rfl⟩ := List.exists_cons_of_ne_nil isDigits.1
    obtain ⟨lower, -⟩ := isDigits.2 first List.mem_cons_self
    have other : first ≠ '-' := by
      rintro rfl
      exact absurd lower (by decide)
    simp only [List.nil_append, List.cons_append]
    unfold takeSign
    split
    · rename_i same
      cases same
      exact absurd rfl other
    · rfl
    · rfl
  · rfl
  · rfl

/-- What the reader makes of a plain decimal: it is read to its end. -/
theorem Numeral.read?_plain {sign whole fraction : List Char} (isSign : IsSign sign)
    (isDigits : IsDigits whole) (isFraction : IsFraction fraction) :
    Numeral.read? (sign ++ whole ++ fraction) =
      some ⟨decide (sign = ['-']), whole.filterMap asciiDigit?, (takeFraction fraction).1, none⟩ := by
  have ended : (takeFraction fraction).2 = [] := (isFraction_iff.1 isFraction).2
  have filled : (whole.filterMap asciiDigit?).isEmpty = false := by
    simpa using isDigits.filterMap_ne_nil
  rw [List.append_assoc]
  unfold Numeral.read?
  dsimp only
  rw [takeSign_append isSign isDigits, takeSign_fst isSign isDigits,
    takeDigits_append isDigits.2 (takeDigits_of_isFraction isFraction)]
  dsimp only
  rw [ended, filled]
  rfl

theorem integerOfText?_eq_some_iff {characters : List Char} {number : Int} :
    integerOfText? characters = some number ↔ SpellsInteger characters number := by
  constructor
  · intro found
    obtain ⟨numeral, read, value⟩ := Option.bind_eq_some_iff.1 found
    obtain ⟨shape, short, spelled⟩ := Numeral.integer?_eq_some_iff.1 value
    obtain ⟨sign, whole, fraction, isSign, isDigits, isFraction, rfl⟩ :=
      exists_isPlain_iff_spellsPlain.1 ⟨numeral, read, shape.isPlain⟩
    cases read.symm.trans (Numeral.read?_plain isSign isDigits isFraction)
    -- The reader finds plain decimals with a fraction too, and these are no integers.
    have unbroken : fraction = [] := by
      rcases isFraction with rfl | ⟨digits, -, rfl⟩
      · rfl
      · cases shape.2.1
    subst unbroken
    rw [filterMap_asciiDigit? isDigits.2, List.length_map] at short
    refine ⟨sign, whole, isSign, isDigits, short, List.append_nil _, ?_⟩
    rw [← spelled, signed, ofDigits_filterMap isDigits.2]
    simp only [decide_eq_true_eq]
  · rintro ⟨sign, digits, isSign, isDigits, short, rfl, rfl⟩
    have read := Numeral.read?_plain isSign isDigits (.inl rfl)
    rw [List.append_nil] at read
    rw [integerOfText?, read, Option.bind_some, Numeral.integer?_eq_some_iff]
    refine ⟨⟨isDigits.filterMap_ne_nil, rfl, rfl⟩, ?_, ?_⟩
    · rw [filterMap_asciiDigit? isDigits.2, List.length_map]
      exact short
    · rw [signed, ofDigits_filterMap isDigits.2]
      simp only [decide_eq_true_eq]

end Number

namespace Value

open NarrativeScript.Text NarrativeScript.Number

/-- The text spells the integer and has nothing but blanks around it. -/
def IsIntegerLiteral (content : String) (number : Int) : Prop :=
  ∃ before body after, (∀ character ∈ before, isBlank character = true) ∧
    (∀ character ∈ after, isBlank character = true) ∧ SpellsInteger body number ∧
      content.toList = before ++ body ++ after

theorem integerLiteral?_eq_some_iff {content : String} {number : Int} :
    integerLiteral? content = some number ↔ IsIntegerLiteral content number := by
  rw [integerLiteral?, integerOfText?_eq_some_iff, trimmed]
  constructor
  · intro spells
    obtain ⟨before, after, leading, trailing, cut⟩ := exists_surroundings isBlank content.toList
    exact ⟨before, _, after, leading, trailing, spells, cut⟩
  · rintro ⟨before, body, after, leading, trailing, spells, cut⟩
    have plain := spells.spellsPlain
    rw [cut, trimBy_of_surrounded leading trailing plain.ne_nil plain.not_isBlank]
    exact spells

theorem canonical_of_integerLiteral? {content : String} {number : Int}
    (h : integerLiteral? content = some number) :
    (text content).canonical = .integer number := by
  obtain ⟨numeral, read, value⟩ := Option.bind_eq_some_iff.1 h
  obtain ⟨shape, -, -⟩ := Numeral.integer?_eq_some_iff.1 value
  rw [canonical_of_plain (spellsPlainDecimal_iff.2 ⟨numeral, read, shape.isPlain⟩),
    numeric_of_integerLiteral? h]
  rfl

/-- A canonical form that is not the text itself is its numeric reading, which is a number. -/
theorem canonical_of_ne {content : String} (changed : (text content).canonical ≠ .text content) :
    (text content).canonical = .number (text content).numeric ∧ ¬ (text content).numeric.IsNan := by
  have read := (canonical_text content).resolve_left changed
  refine ⟨read, fun unreadable => canonical_text_ne_nan content ?_⟩
  rw [read]
  exact congrArg Value.number unreadable

theorem ne_empty_of_integerLiteral? {content : String} {number : Int}
    (h : integerLiteral? content = some number) : content ≠ "" := by
  rintro rfl
  cases h

end Value

namespace Script

open NarrativeScript.Text NarrativeScript.Number

/-- The operands of arithmetic, in the order in which they are looked at. -/
inductive Place where
  | left
  | right
  deriving DecidableEq, Repr

/-- The operand at the place is the first that is refused, and this is the failure. -/
def RefusedAt (state : State) (left right : String) (failure : Failure) : Place → Prop
  | .left => operandNumber state left = .error failure
  | .right =>
      (∃ number, operandNumber state left = .ok number) ∧ operandNumber state right = .error failure

/-- Arithmetic fails only for an operand: two that are accepted have a result. -/
theorem calculate_or_refusedAt (state : State) (operation : Operation) (left right : String) :
    (∃ result, calculate state operation left right = .ok result) ∨
      ∃ failure place, RefusedAt state left right failure place ∧
        calculate state operation left right = .error failure := by
  unfold calculate
  cases here : operandNumber state left with
  | error failure => exact .inr ⟨failure, .left, here, rfl⟩
  | ok first =>
      cases there : operandNumber state right with
      | error failure => exact .inr ⟨failure, .right, ⟨⟨first, here⟩, there⟩, rfl⟩
      | ok second =>
          obtain ⟨result, defined⟩ := exists_result?_of_operandNumber operation here there
          exact .inl ⟨result, by simp only [defined]⟩

theorem operandNumber_set_of_ne (state : State) {key token : String} (other : token ≠ key)
    (value : Value) : operandNumber (state.set key value) token = operandNumber state token := by
  have same : (state.set key value).visible? token = state.visible? token := by
    rw [State.visible?, State.visible?, State.get?_set_of_ne state value other]
  unfold operandNumber
  rw [operandValue?_congr same]

/-- A literal that is not zero is the same operand in the statement and under a key. -/
theorem operandNumber_set_literal {key content : String}
    (unspelled : Value.integerLiteral? key = none) (state : State) {number : Int}
    (spells : Value.integerLiteral? content = some number) (nonzero : number ≠ 0) :
    operandNumber (state.set key (.text content)) key = operandNumber state content := by
  have inline : operandValue? state content = some (.integer number) := by
    rw [operandValue?, spells]
    simp [Value.isTrue_integer.2 nonzero]
  -- The stored text counts as true because it is not empty: the text of a zero would too.
  have counts : (Value.text content).isTrue = true :=
    Value.isTrue_text.2 (Value.ne_empty_of_integerLiteral? spells)
  have stored : operandValue? (state.set key (.text content)) key = some (.text content) := by
    rw [operandValue?_set unspelled, Option.filter_some, if_pos counts]
  rw [operandNumber_of_integer stored (Value.numeric_of_integerLiteral? spells),
    operandNumber_of_integer inline rfl]

/-- The same operands are refused for the same failure at the same place. -/
theorem RefusedAt.congr {first second : State} {left right other : String} {failure : Failure}
    {place : Place} (here : operandNumber second left = operandNumber first left)
    (there : operandNumber second other = operandNumber first right)
    (h : RefusedAt first left right failure place) : RefusedAt second left other failure place := by
  cases place with
  | left => exact here.trans h
  | right =>
      obtain ⟨⟨number, accepted⟩, refused⟩ := h
      exact ⟨⟨number, here.trans accepted⟩, there.trans refused⟩

namespace Action

theorem isToken_of_mem_statement {action : Action} (params : ∀ param ∈ action.params, IsToken param) :
    ∀ token ∈ action.statement.tokens, IsToken token :=
  List.forall_mem_cons.2 ⟨action.instruction.isToken_word, params⟩

end Action

variable {σ : Type} [Dice.Source σ]

theorem dispatch_set (context : Context) {key content : String} (filled : content ≠ "")
    (session : Session σ) :
    dispatch context (Action.set key content).statement session =
      .done (session.set key (.text content)) := by
  have accepted : accept [key, content] (some (.text content)) = .ok (.text content) :=
    accept_eq_ok_iff.2 ⟨rfl, Value.isTrue_text.2 filled⟩
  rw [dispatch_statement, Action.written, accepted]
  rfl

theorem ne_empty_of_laysOut {statement : Statement} {piece : String}
    (plain : ∀ token ∈ statement.tokens, IsToken token) (laid : LaysOut statement.tokens piece) :
    piece ≠ "" := by
  rintro rfl
  cases words_of_laysOut laid fun token member => (plain token member).isWord

theorem run_of_laysOut (context : Context) {statement : Statement} {piece : String}
    (plain : ∀ token ∈ statement.tokens, IsToken token) (laid : LaysOut statement.tokens piece)
    (session : Session σ) :
    run context (some piece) session = dispatch context statement session := by
  have read := words_of_laysOut laid fun token member => (plain token member).isWord
  have single : ';' ∉ piece.toList := laid.not_mem fun token member => (plain token member).2
  rw [run_single context (ne_empty_of_laysOut plain laid) single, runPiece,
    Statement.parse_eq_ok_iff.2 read]
  rfl

/-! ### A literal in place and under a key -/

/-- The first script is a statement of arithmetic on the content. The second stores the content under
the key, and its arithmetic names the key instead. -/
structure AreForms (operation : Operation) (left key content direct indirect : String) : Prop where
  inPlace : LaysOut [(Instruction.arithmetic operation).word, left, content] direct
  stored : ∃ first second, LaysOut [Instruction.set.word, key, content] first ∧
    LaysOut [(Instruction.arithmetic operation).word, left, key] second ∧
      indirect = first ++ ";" ++ second

namespace AreForms

variable {operation : Operation} {left key content direct indirect : String}

theorem run_direct (h : AreForms operation left key content direct indirect) (isLeft : IsToken left)
    (isContent : IsToken content) (context : Context) (session : Session σ) :
    run context (some direct) session =
      dispatch context (Action.arithmetic operation left content).statement session := by
  have plain : ∀ token ∈ (Action.arithmetic operation left content).statement.tokens,
      IsToken token := Action.isToken_of_mem_statement (by simp [Action.params, isLeft, isContent])
  exact run_of_laysOut context plain h.inPlace session

theorem run_indirect (h : AreForms operation left key content direct indirect)
    (isLeft : IsToken left) (isKey : IsToken key) (isContent : IsToken content) (context : Context)
    (session : Session σ) :
    run context (some indirect) session =
      dispatch context (Action.arithmetic operation left key).statement
        (session.set key (.text content)) := by
  obtain ⟨first, second, storing, naming, rfl⟩ := h.stored
  have plainFirst : ∀ token ∈ (Action.set key content).statement.tokens, IsToken token :=
    Action.isToken_of_mem_statement (by simp [Action.params, isKey, isContent])
  have plainSecond : ∀ token ∈ (Action.arithmetic operation left key).statement.tokens,
      IsToken token := Action.isToken_of_mem_statement (by simp [Action.params, isLeft, isKey])
  have filledFirst : first ≠ "" := ne_empty_of_laysOut plainFirst storing
  have filledSecond : second ≠ "" := ne_empty_of_laysOut plainSecond naming
  rw [run_join context filledFirst, run_of_laysOut context plainFirst storing,
    dispatch_set context isContent.isWord.1, Outcome.andThen_done,
    runPieces_segments context filledSecond]
  exact run_of_laysOut context plainSecond naming _

end AreForms

/-- The reader of integers finds exactly the integers that the grammar derives, and the numeric
reading and the canonical form are the same integer. A canonical form that is not the text is its
numeric reading and is a number. So it makes no difference to arithmetic whether a literal that is not
zero stands in the statement or under a key: both scripts write the same number, or both are refused
the operand at the same place. -/
theorem literal_is_read_alike_in_place_and_under_key (content : String) :
    (∀ number, Value.integerLiteral? content = some number ↔ Value.IsIntegerLiteral content number) ∧
    (∀ number, Value.IsIntegerLiteral content number →
      (Value.text content).numeric = .integer number ∧
        (Value.text content).canonical = .integer number) ∧
    ((Value.text content).canonical ≠ .text content →
      (Value.text content).canonical = .number (Value.text content).numeric ∧
        ¬ (Value.text content).numeric.IsNan) ∧
    ∀ number, Value.IsIntegerLiteral content number → number ≠ 0 → IsToken content →
      ∀ (operation : Operation) (left key : String), IsToken left → IsToken key →
        Value.integerLiteral? key = none → left ≠ key →
          ∀ direct indirect, AreForms operation left key content direct indirect →
            ∀ (context : Context) (session : Session σ),
              let stored := session.set key (.text content)
              (∃ result,
                run context (some direct) session = .done (session.set left (.number result)) ∧
                run context (some indirect) session = .done (stored.set left (.number result)) ∧
                ∀ other, other ≠ key →
                  (stored.set left (.number result)).state.slot? other =
                    (session.set left (.number result)).state.slot? other) ∨
              ∃ failure place,
                run context (some direct) session = .failed failure session ∧
                run context (some indirect) session = .failed failure stored ∧
                RefusedAt session.state left content failure place ∧
                RefusedAt stored.state left key failure place := by
  refine ⟨fun number => Value.integerLiteral?_eq_some_iff, fun number spells => ?_,
    Value.canonical_of_ne, ?_⟩
  · have found := Value.integerLiteral?_eq_some_iff.2 spells
    exact ⟨Value.numeric_of_integerLiteral? found, Value.canonical_of_integerLiteral? found⟩
  intro number spells nonzero isContent operation left key isLeft isKey unspelled apart direct
    indirect forms context session stored
  rw [forms.run_direct isLeft isContent, forms.run_indirect isLeft isKey isContent]
  have here : operandNumber stored.state left = operandNumber session.state left :=
    operandNumber_set_of_ne session.state apart _
  have there : operandNumber stored.state key = operandNumber session.state content :=
    operandNumber_set_literal unspelled session.state
      (Value.integerLiteral?_eq_some_iff.2 spells) nonzero
  have same : calculate stored.state operation left key =
      calculate session.state operation left content := by
    unfold calculate
    rw [here, there]
  rcases calculate_or_refusedAt session.state operation left content with
    ⟨result, computed⟩ | ⟨failure, place, refused, failed⟩
  · refine .inl ⟨result, dispatch_calculate context computed,
      dispatch_calculate context (same.trans computed), fun other elsewhere => ?_⟩
    show ((session.state.set key _).set left _).slot? other = (session.state.set left _).slot? other
    simp only [State.slot?_set, if_neg elsewhere]
  · exact .inr ⟨failure, place, dispatch_calculate_error context failed,
      dispatch_calculate_error context (same.trans failed), refused, refused.congr here there⟩

/-- Seven is written with a sign and two zeros. It multiplies alike, and beside a key that holds
nothing it is not even looked at. -/
theorem signed_seven_in_place_and_under_key :
    let session : Session Dice.Prepared := ⟨.ofList [("hp", some (.text "5.0"))], ⟨[]⟩⟩
    let stored := session.set "bonus" (.text "+007")
    let content := "+007"
    let direct := "MUL hp +007"
    let indirect := "SET bonus\t+007;MUL hp bonus "
    let absent := "SUB mp +007"
    let unread := "SET bonus +007;SUB mp bonus"
    (Value.IsIntegerLiteral content 7 ∧ IsToken content ∧ IsToken "hp" ∧ IsToken "mp" ∧
        IsToken "bonus" ∧ Value.integerLiteral? "bonus" = none ∧
        AreForms .mul "hp" "bonus" content direct indirect ∧
        AreForms .sub "mp" "bonus" content absent unread) ∧
      ((Value.text content).canonical = .integer 7 ∧ ¬ (Value.text content).numeric.IsNan) ∧
      (∃ result, run ⟨0, 32⟩ (some direct) session = .done (session.set "hp" (.number result)) ∧
        run ⟨0, 32⟩ (some indirect) session = .done (stored.set "hp" (.number result))) ∧
      ∃ failure, run ⟨0, 32⟩ (some absent) session = .failed failure session ∧
        run ⟨0, 32⟩ (some unread) session = .failed failure stored := by
  intro session stored content direct indirect absent unread
  have laid : ∀ {tokens : List String} {text : String}, (∀ token ∈ tokens, IsWord token) →
      words text = tokens → LaysOut tokens text := fun solid read => (laysOut_iff solid).2 read
  have product : AreForms .mul "hp" "bonus" content direct indirect :=
    ⟨laid (by decide +kernel) (by decide +kernel), "SET bonus\t+007", "MUL hp bonus ",
      laid (by decide +kernel) (by decide +kernel), laid (by decide +kernel) (by decide +kernel),
      by decide⟩
  have difference : AreForms .sub "mp" "bonus" content absent unread :=
    ⟨laid (by decide +kernel) (by decide +kernel), "SET bonus +007", "SUB mp bonus",
      laid (by decide +kernel) (by decide +kernel), laid (by decide +kernel) (by decide +kernel),
      by decide⟩
  have isContent : IsToken content := by decide +kernel
  have isHp : IsToken "hp" := by decide +kernel
  have isMp : IsToken "mp" := by decide +kernel
  have isKey : IsToken "bonus" := by decide +kernel
  have unspelled : Value.integerLiteral? "bonus" = none := by decide +kernel
  have changed : (Value.text content).canonical ≠ .text content := by decide +kernel
  have counted : (run ⟨0, 32⟩ (some direct) session).failure? = none := by decide +kernel
  have refused : (run ⟨0, 32⟩ (some absent) session).failure? = some (.undefinedValue "mp") := by
    decide +kernel
  obtain ⟨grammar, reads, numbers, alike⟩ :=
    @literal_is_read_alike_in_place_and_under_key Dice.Prepared _ content
  have spells : Value.IsIntegerLiteral content 7 := (grammar 7).1 (by decide +kernel)
  have compared := fun operation left isLeft => alike 7 spells (by decide) isContent operation left
    "bonus" isLeft isKey unspelled
  refine ⟨⟨spells, isContent, isHp, isMp, isKey, unspelled, product, difference⟩,
    ⟨(reads 7 spells).2, (numbers changed).2⟩, ?_, ?_⟩
  · rcases compared .mul "hp" isHp (by decide) direct indirect product ⟨0, 32⟩ session with
      ⟨result, here, there, -⟩ | ⟨failure, place, here, -⟩
    · exact ⟨result, here, there⟩
    · rw [here] at counted
      cases counted
  · rcases compared .sub "mp" isMp (by decide) absent unread difference ⟨0, 32⟩ session with
      ⟨result, here, -⟩ | ⟨failure, place, here, there, -⟩
    · rw [here] at refused
      cases refused
    · exact ⟨failure, here, there⟩

end Script

end NarrativeScript
