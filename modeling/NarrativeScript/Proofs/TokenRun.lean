import NarrativeScript.Proofs.Token

/-!
# Running scripts by their tokens

A second way to run a script. It is cut into pieces and every piece into words
once, at the start; from then on lists of tokens are carried out, and a branch
is the list of tokens that a conditional cuts out of its own. The main result
is that this leaves the same outcome as a run that joins each branch to a text
and reads that text again.
-/

namespace NarrativeScript.Script

open NarrativeScript.Text

variable {σ : Type}

/-- A piece of a script as it is shown in a failure, and its tokens. -/
structure Line where
  shown : String
  tokens : List String
  deriving DecidableEq, Repr

namespace Line

def ofPiece (piece : String) : Line :=
  ⟨piece, words piece⟩

/-- A branch was never written on its own: it is shown with one space between its tokens. -/
def ofBranch (tokens : List String) : Line :=
  ⟨unwords tokens, tokens⟩

end Line

/-- The lines of a script; an absent script and the empty one have none. -/
def tokenize : Option String → List Line
  | none => []
  | some text => if text = "" then [] else (segments text).map Line.ofPiece

theorem tokenize_eq (script : Option String) : tokenize script = (pieces script).map Line.ofPiece := by
  cases script with
  | none => rfl
  | some text =>
      show (if text = "" then [] else _) = (if text = "" then [] else segments text).map Line.ofPiece
      split <;> rfl

/-- What a line comes to on its own level, before any branch is entered. -/
inductive Turn where
  | fail (failure : Failure)
  | skip
  | enter (branch : List String)
  | simple (instruction : Instruction) (params : List String)
  deriving DecidableEq, Repr

/-- A conditional is cut at its first THEN and its first ELSE, and its condition chooses. -/
def conditionalTurn (state : State) (params : List String) : Turn :=
  let branches := Branches.ofParams params
  match Condition.evaluateTokens state branches.condition with
  | .error failure => .fail failure
  | .ok result =>
      match branches.chosen result with
      | none => .skip
      | some branch => .enter branch

/-- The number of tokens is looked at first, then the type, then the parameters. -/
def Line.turn (state : State) (line : Line) : Turn :=
  match line.tokens with
  | type :: first :: rest =>
      match Instruction.ofType type with
      | .error failure => .fail failure
      | .ok instruction =>
          match instruction.check (first :: rest) with
          | .error failure => .fail failure
          | .ok () =>
              if instruction = .conditional then conditionalTurn state (first :: rest)
              else .simple instruction (first :: rest)
  | _ => .fail (.format .shortStatement (.text line.shown))

theorem conditionalTurn_enter {state : State} {params branch : List String}
    (h : conditionalTurn state params = .enter branch) :
    ∃ result, (Branches.ofParams params).chosen result = some branch := by
  unfold conditionalTurn at h
  dsimp only at h
  split at h
  · cases h
  · rename_i result _
    cases taken : (Branches.ofParams params).chosen result with
    | none => simp [taken] at h
    | some chosen =>
        rw [taken] at h
        cases h
        exact ⟨result, taken⟩

/-- Only a statement of at least two tokens that passes its checks comes to anything. -/
theorem Line.turn_cases (state : State) (line : Line) :
    (∃ failure, line.turn state = .fail failure) ∨
      ∃ type params instruction, line.tokens = type :: params ∧
        Instruction.ofType type = .ok instruction ∧ instruction.check params = .ok () ∧
        (instruction = .conditional ∧ line.turn state = conditionalTurn state params ∨
          instruction ≠ .conditional ∧ line.turn state = .simple instruction params) := by
  unfold Line.turn
  split
  · rename_i type first rest tokens
    cases typed : Instruction.ofType type with
    | error failure => exact .inl ⟨failure, rfl⟩
    | ok instruction =>
        dsimp only
        cases checked : instruction.check (first :: rest) with
        | error failure => exact .inl ⟨failure, rfl⟩
        | ok _ =>
            refine .inr ⟨type, first :: rest, instruction, tokens, typed, checked, ?_⟩
            by_cases choice : instruction = .conditional
            · exact .inl ⟨choice, if_pos choice⟩
            · exact .inr ⟨choice, if_neg choice⟩
  · exact .inl ⟨_, rfl⟩

theorem Line.turn_enter {state : State} {line : Line} {branch : List String}
    (h : line.turn state = .enter branch) :
    ∃ type params result, line.tokens = type :: params ∧
      (Branches.ofParams params).chosen result = some branch := by
  rcases line.turn_cases state with ⟨failure, failed⟩ |
    ⟨type, params, instruction, tokens, -, -, ⟨-, conditional⟩ | ⟨-, acted⟩⟩
  · rw [failed] at h
    cases h
  · obtain ⟨result, taken⟩ := conditionalTurn_enter (conditional.symm.trans h)
    exact ⟨type, params, result, tokens, taken⟩
  · rw [acted] at h
    cases h

theorem Line.mem_of_turn_enter {state : State} {line : Line} {branch : List String} {token : String}
    (h : line.turn state = .enter branch) (member : token ∈ branch) : token ∈ line.tokens := by
  obtain ⟨type, params, result, tokens, taken⟩ := Line.turn_enter h
  rw [tokens]
  exact List.mem_cons_of_mem type (mem_of_mem_chosen taken member)

theorem Line.length_of_turn_enter {state : State} {line : Line} {branch : List String}
    (h : line.turn state = .enter branch) : branch.length < line.tokens.length := by
  obtain ⟨type, params, result, tokens, taken⟩ := Line.turn_enter h
  rw [tokens]
  exact Nat.lt_succ_of_le (length_chosen_le taken)

variable [Dice.Source σ]

/-- Does what a line comes to; `enter` carries out a branch. -/
def Turn.carryOut (enter : List String → Session σ → Outcome σ) (turn : Turn)
    (session : Session σ) : Outcome σ :=
  match turn with
  | .fail failure => .failed failure session
  | .skip => .done session
  | .enter branch => enter branch session
  | .simple instruction params => act instruction params session

/-- Carries out one line. A branch without tokens is entered and does nothing. -/
def runLine (context : Context) (line : Line) (session : Session σ) : Outcome σ :=
  match _turn : line.turn session.state with
  | .fail failure => .failed failure session
  | .skip => .done session
  | .enter branch =>
      match context.nested with
      | .error failure => .failed failure session
      | .ok inner =>
          if branch = [] then .done session else runLine inner (.ofBranch branch) session
  | .simple instruction params => act instruction params session
termination_by line.tokens.length
decreasing_by exact Line.length_of_turn_enter _turn

/-- Carries out lines in order, up to the first that fails. -/
def runLines (context : Context) : List Line → Session σ → Outcome σ
  | [], session => .done session
  | line :: rest, session => (runLine context line session).andThen (runLines context rest)

/-- Carries out the tokens of a branch one level deeper. -/
def enterTokens (context : Context) (branch : List String) (session : Session σ) : Outcome σ :=
  match context.nested with
  | .error failure => .failed failure session
  | .ok inner => if branch = [] then .done session else runLine inner (.ofBranch branch) session

theorem runLine_eq (context : Context) (line : Line) (session : Session σ) :
    runLine context line session =
      (line.turn session.state).carryOut (enterTokens context) session := by
  rw [runLine]
  split <;> simp [*, Turn.carryOut, enterTokens]

/-! ### Reading a branch again changes nothing -/

theorem parse_of_words {piece type first : String} {rest : List String}
    (read : words piece = type :: first :: rest) :
    ∃ statement, Statement.parse piece = .ok statement ∧ statement.type = type ∧
      statement.params = first :: rest := by
  have member : type ∈ words piece := by simp [read]
  have filled : type ≠ "" := (isWord_of_mem_words member).1
  refine ⟨⟨type, first :: rest, filled, List.cons_ne_nil _ _⟩, ?_, rfl, rfl⟩
  rw [Statement.parse, read]
  exact dif_pos ⟨filled, List.cons_ne_nil _ _⟩

/-- Tokens with one space between them are a condition of just these tokens. -/
theorem evaluate_unwords (state : State) {tokens : List String}
    (solid : ∀ token ∈ tokens, IsWord token) :
    Condition.evaluate state (unwords tokens) = Condition.evaluateTokens state tokens := by
  rw [Condition.evaluate, words_unwords solid]

theorem performConditional_eq (enter : String → Session σ → Outcome σ) {params : List String}
    (solid : ∀ token ∈ params, IsWord token) (present : thenToken ∈ params)
    (session : Session σ) :
    performConditional enter params session =
      (conditionalTurn session.state params).carryOut (fun branch => enter (unwords branch))
        session := by
  rw [performConditional, if_pos present, conditionalTurn]
  dsimp only
  rw [evaluate_unwords session.state fun token member => solid token (mem_of_mem_condition member)]
  cases Condition.evaluateTokens session.state (Branches.ofParams params).condition with
  | error failure => rfl
  | ok result =>
      dsimp only
      cases (Branches.ofParams params).chosen result <;> rfl

/-- A piece does what its line comes to; a branch is handed on as a text. -/
theorem runPiece_eq (enter : String → Session σ → Outcome σ) (piece : String)
    (session : Session σ) :
    runPiece enter piece session =
      ((Line.ofPiece piece).turn session.state).carryOut (fun branch => enter (unwords branch))
        session := by
  rw [Line.turn, Line.ofPiece]
  cases read : words piece with
  | nil => simp [runPiece, Statement.parse, read, Turn.carryOut]
  | cons type params =>
      cases params with
      | nil => simp [runPiece, Statement.parse, read, Turn.carryOut]
      | cons first rest =>
          obtain ⟨statement, parsed, rfl, params⟩ := parse_of_words read
          rw [runPiece, parsed]
          dsimp only
          rw [execute, params]
          cases Instruction.ofType statement.type with
          | error failure => rfl
          | ok instruction =>
              dsimp only
              cases checked : instruction.check (first :: rest) with
              | error failure => rfl
              | ok _ =>
                  dsimp only
                  by_cases choice : instruction = .conditional
                  · subst choice
                    have solid : ∀ token ∈ first :: rest, IsWord token := by
                      intro token member
                      have inside : token ∈ words piece := read ▸ List.mem_cons_of_mem _ member
                      exact isWord_of_mem_words inside
                    rw [if_pos rfl, perform]
                    exact performConditional_eq enter solid
                      (Instruction.check_conditional_eq_ok_iff.1 checked).1 session
                  · rw [if_neg choice]
                    cases instruction <;> first | exact absurd rfl choice | rfl

theorem run_single (context : Context) {text : String} (filled : text ≠ "")
    (single : ';' ∉ text.toList) (session : Session σ) :
    run context (some text) session = runPiece (enter context) text session := by
  rw [run_eq, pieces_eq_singleton filled single, runPieces]
  exact Outcome.andThen_done_right _

/-- A branch of tokens is a script of one piece, or of none. -/
theorem enter_unwords (context : Context) {branch : List String}
    (plain : ∀ token ∈ branch, IsToken token) (session : Session σ) :
    enter context (unwords branch) session =
      match context.nested with
      | .error failure => .failed failure session
      | .ok inner =>
          if branch = [] then .done session
          else runPiece (enter inner) (unwords branch) session := by
  rw [enter]
  cases context.nested with
  | error failure => rfl
  | ok inner =>
      dsimp only
      split
      · rename_i empty
        subst empty
        exact run_empty inner session
      · rename_i filled
        exact run_single inner (unwords_ne_empty plain filled)
          (not_mem_unwords fun token member => (plain token member).2) session

theorem ofPiece_unwords {tokens : List String} (solid : ∀ token ∈ tokens, IsWord token) :
    Line.ofPiece (unwords tokens) = .ofBranch tokens := by
  rw [Line.ofPiece, Line.ofBranch, words_unwords solid]

/-- By induction on the number of tokens: each branch has fewer than its statement. -/
theorem runPiece_eq_runLine {piece : String} (single : ';' ∉ piece.toList) (context : Context)
    (session : Session σ) :
    runPiece (enter context) piece session = runLine context (.ofPiece piece) session := by
  induction size : (words piece).length using Nat.strongRecOn generalizing piece context with
  | ind size ih =>
      subst size
      rw [runPiece_eq, runLine_eq]
      cases turn : (Line.ofPiece piece).turn session.state with
      | fail failure => rfl
      | skip => rfl
      | simple instruction params => rfl
      | enter branch =>
          have plain : ∀ token ∈ branch, IsToken token := fun token member =>
            isToken_of_mem_words single (Line.mem_of_turn_enter turn member)
          have solid : ∀ token ∈ branch, IsWord token := fun token member =>
            (plain token member).isWord
          have smaller : (words (unwords branch)).length < (words piece).length := by
            rw [words_unwords solid]
            exact Line.length_of_turn_enter turn
          simp only [Turn.carryOut, enterTokens]
          rw [enter_unwords context plain]
          cases context.nested with
          | error failure => rfl
          | ok inner =>
              dsimp only
              split
              · rfl
              · rw [ih _ smaller (not_mem_unwords fun token member => (plain token member).2)
                  inner rfl, ofPiece_unwords solid]

theorem runPieces_eq_runLines (context : Context) {texts : List String}
    (single : ∀ piece ∈ texts, ';' ∉ piece.toList) (session : Session σ) :
    runPieces (enter context) texts session =
      runLines context (texts.map Line.ofPiece) session := by
  induction texts generalizing session with
  | nil => rfl
  | cons piece rest ih =>
      rw [runPieces, List.map_cons, runLines, runPiece_eq_runLine (single piece (by simp))]
      exact congrArg _ (funext (ih fun other member => single other (by simp [member])))

theorem run_eq_runLines_ofPiece (context : Context) (script : Option String) (session : Session σ) :
    run context script session = runLines context ((pieces script).map Line.ofPiece) session := by
  rw [run_eq]
  exact runPieces_eq_runLines context (fun piece member => not_mem_of_mem_pieces member) session

/-- A run that reads every branch again as a text leaves the outcome of the run by tokens. -/
theorem run_eq_runLines (context : Context) (script : Option String) (session : Session σ) :
    run context script session = runLines context (tokenize script) session := by
  rw [tokenize_eq]
  exact run_eq_runLines_ofPiece context script session

end NarrativeScript.Script
