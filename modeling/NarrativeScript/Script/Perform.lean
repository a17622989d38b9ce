import NarrativeScript.Condition.Expression
import NarrativeScript.Script.Instruction
import NarrativeScript.Script.Session

/-!
# Carrying out an instruction

Every instruction but the conditional one is a single step: it answers with the
session it leaves or with a failure, and then nothing has changed. Writing
refuses values that count as false; the result of arithmetic is written as it
is. A conditional evaluates its condition and hands the text of the chosen
branch to whatever runs branches.
-/

namespace NarrativeScript.Script

variable {σ : Type}

/-- The key that GOTO writes: where the story goes on. -/
def questionKey : String := "question"

def largestDie : Nat := 1000

def Session.set (session : Session σ) (key : String) (value : Value) : Session σ :=
  { session with state := session.state.set key value }

theorem Session.set_set (session : Session σ) (key : String) (first second : Value) :
    (session.set key first).set key second = session.set key second := by
  simp only [Session.set, State.set_set]

/-- A value that counts as true, or the failure that shows the parameters. -/
def accept (params : List String) (value : Option Value) : Except Failure Value :=
  match value.filter Value.isTrue with
  | some value => .ok value
  | none => .error (.format .falseValue (.words params))

theorem accept_eq_ok_iff {params : List String} {value : Option Value} {held : Value} :
    accept params value = .ok held ↔ value = some held ∧ held.isTrue = true := by
  rw [← Option.filter_eq_some_iff, accept]
  cases value.filter Value.isTrue <;> simp

/-- Writes a value that counts as true. -/
def store (params : List String) (session : Session σ) (key : String) (value : Option Value) :
    Except Failure (Session σ) :=
  (accept params value).map (session.set key)

/-- A die, known by the number of its sides. -/
abbrev Die : Type :=
  { sides : Nat // 0 < sides ∧ sides ≤ largestDie }

/-- The die with as many sides as a token spells, if there is one. -/
def die? (token : String) : Option Die :=
  match Value.integerLiteral? token with
  | none => none
  | some size =>
      if h : 0 < size.toNat ∧ size.toNat ≤ largestDie then some ⟨size.toNat, h⟩ else none

/-- The value that an operand stands for, if it counts as true. A literal stands for itself and is
looked at first. -/
def operandValue? (state : State) (token : String) : Option Value :=
  (((Value.integerLiteral? token).map Value.integer).or (state.get? token)).filter Value.isTrue

/-- The number that an operand stands for. -/
def operandNumber (state : State) (token : String) : Except Failure Number :=
  match operandValue? state token with
  | none => .error (.undefinedValue token)
  | some value =>
      if value.numeric.IsNan then .error (.undefinedValue token)
      else if value.numeric.FitsBinary64 then .ok value.numeric
      else .error .oversizedInteger

theorem fitsBinary64_of_operandNumber {state : State} {token : String} {number : Number}
    (h : operandNumber state token = .ok number) : number.FitsBinary64 := by
  unfold operandNumber at h
  split at h
  · cases h
  · split at h
    · cases h
    · split at h
      · rename_i fits
        cases h
        exact fits
      · cases h

def calculate (state : State) (operation : Number.Operation) (left right : String) :
    Except Failure Number :=
  match operandNumber state left with
  | .error failure => .error failure
  | .ok first =>
      match operandNumber state right with
      | .error failure => .error failure
      | .ok second =>
          match operation.result? first second with
          | some result => .ok result
          | none => .error .oversizedInteger

theorem calculate_eq_ok_iff {state : State} {operation : Number.Operation} {left right : String}
    {result : Number} :
    calculate state operation left right = .ok result ↔
      ∃ first second, operandNumber state left = .ok first ∧
        operandNumber state right = .ok second ∧ operation.result? first second = some result := by
  unfold calculate
  cases operandNumber state left with
  | error failure => simp
  | ok first =>
      cases operandNumber state right with
      | error failure => simp
      | ok second => cases computed : operation.result? first second <;> simp [computed]

variable [Dice.Source σ]

def Die.cast (die : Die) (source : σ) : Nat × σ :=
  Dice.roll die.val die.property.1 source

/-- The die is cast before its number is written: a refused number would not bring it back. -/
def rollDie (params : List String) (session : Session σ) (size target : String) : Outcome σ :=
  match die? size with
  | none => .failed (.format .diceSize (.text size)) session
  | some die =>
      let rolled := die.cast session.source
      let cast : Session σ := { session with source := rolled.2 }
      .ofStep cast (store params cast target (some (.integer rolled.1)))

/-- The parts of a conditional. Each of its two tokens counts where it first occurs. -/
structure Branches where
  condition : List String
  thenBranch : List String
  elseBranch : Option (List String)
  deriving DecidableEq, Repr

def beforeFirst (token : String) (tokens : List String) : List String :=
  tokens.takeWhile (· != token)

def afterFirst (token : String) (tokens : List String) : List String :=
  (tokens.dropWhile (· != token)).drop 1

theorem beforeFirst_append_afterFirst {token : String} {tokens : List String} (h : token ∈ tokens) :
    beforeFirst token tokens ++ token :: afterFirst token tokens = tokens := by
  induction tokens with
  | nil => cases h
  | cons first rest ih =>
      by_cases here : first = token
      · simp [beforeFirst, afterFirst, here]
      · have later : token ∈ rest := by
          rcases List.mem_cons.1 h with same | later
          · exact absurd same.symm here
          · exact later
        have tail := ih later
        simp only [beforeFirst, afterFirst] at tail ⊢
        rw [List.takeWhile_cons_of_pos (by simpa using here),
          List.dropWhile_cons_of_pos (by simpa using here), List.cons_append, tail]

def Branches.ofParams (params : List String) : Branches :=
  { condition := beforeFirst thenToken params
    thenBranch := afterFirst thenToken (beforeFirst elseToken params)
    elseBranch := if elseToken ∈ params then some (afterFirst elseToken params) else none }

/-- The branch that a condition chooses; a condition that fails may choose none. -/
def Branches.chosen (branches : Branches) : Bool → Option (List String)
  | true => some branches.thenBranch
  | false => branches.elseBranch

def performConditional (enter : String → Session σ → Outcome σ) (params : List String)
    (session : Session σ) : Outcome σ :=
  if thenToken ∈ params then
    let branches := Branches.ofParams params
    match Condition.evaluate session.state (Text.unwords branches.condition) with
    | .error failure => .failed failure session
    | .ok result =>
        match branches.chosen result with
        | none => .done session
        | some branch => enter (Text.unwords branch) session
  else .failed (.misfit (.absent thenToken)) session

/-- Why an instruction cannot be carried out on parameters of the wrong number. A die and a left
operand are looked at before the parameter that follows them is missed. -/
def misfitFailure (state : State) (instruction : Instruction) (params : List String) : Failure :=
  match instruction, params with
  | .copy, params => .misfit (.notTwo params.length)
  | .roll, size :: _ =>
      if (die? size).isNone then .format .diceSize (.text size) else .misfit .missing
  | .arithmetic _, left :: _ =>
      match operandNumber state left with
      | .error failure => failure
      | .ok _ => .misfit .missing
  | _, _ => .misfit .missing

/-- Carries out an instruction other than the conditional one, on parameters that were not
checked. -/
def act (instruction : Instruction) (params : List String) (session : Session σ) : Outcome σ :=
  match instruction, params with
  | .goto, destination :: _ =>
      .ofStep session (store params session questionKey (some (.text destination)))
  | .set, key :: content :: _ => .ofStep session (store params session key (some (.text content)))
  | .copy, [origin, key] => .ofStep session (store params session key (session.state.get? origin))
  | .roll, size :: target :: _ => rollDie params session size target
  | .arithmetic operation, left :: right :: _ =>
      .ofStep session ((calculate session.state operation left right).map fun result =>
        session.set left (.number result))
  | instruction, params => .failed (misfitFailure session.state instruction params) session

/-- Carries out an instruction on parameters that were not checked; `enter` runs a branch. -/
def perform (enter : String → Session σ → Outcome σ) (instruction : Instruction)
    (params : List String) (session : Session σ) : Outcome σ :=
  match instruction with
  | .conditional => performConditional enter params session
  | instruction => act instruction params session

end NarrativeScript.Script
