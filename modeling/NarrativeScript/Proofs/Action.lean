import Mathlib.Data.List.Basic
import NarrativeScript.Proofs.TokenRun

/-!
# Actions

An action is an instruction other than the conditional one together with the
parameters it takes. It writes one key, told by the action alone; what it writes
there depends on the state and, for a die, on the source. An action that fails
leaves the session as it was: a die is cast only when its number will be written.
-/

namespace NarrativeScript.Script

open NarrativeScript.Text

inductive Action where
  | goto (destination : String)
  | set (key content : String)
  | copy (origin key : String)
  | roll (size key : String)
  | arithmetic (operation : Number.Operation) (left right : String)
  deriving DecidableEq, Repr

variable {σ : Type}

/-- The outcome of an attempt to write at a key: a failure leaves the session as it was. -/
def Session.settle (session : Session σ) (key : String) : Except Failure (Value × σ) → Outcome σ
  | .error failure => .failed failure session
  | .ok (value, source) => .done ⟨session.state.set key value, source⟩

theorem settle_failure?_eq_some_iff {session : Session σ} {key : String}
    {change : Except Failure (Value × σ)} {failure : Failure} :
    (session.settle key change).failure? = some failure ↔ change = .error failure := by
  cases change with
  | error cause => simp [Session.settle, Outcome.failed]
  | ok result => simp [Session.settle, Outcome.done]

namespace Action

def instruction : Action → Instruction
  | .goto _ => .goto
  | .set _ _ => .set
  | .copy _ _ => .copy
  | .roll _ _ => .roll
  | .arithmetic operation _ _ => .arithmetic operation

def params : Action → List String
  | .goto destination => [destination]
  | .set key content => [key, content]
  | .copy origin key => [origin, key]
  | .roll size key => [size, key]
  | .arithmetic _ left right => [left, right]

/-- The statement that is carried out as the action. -/
def statement (action : Action) : Statement :=
  { type := action.instruction.word
    params := action.params
    type_ne_empty := action.instruction.isToken_word.isWord.1
    params_ne_nil := by cases action <;> exact List.cons_ne_nil _ _ }

/-- The key that an action writes. -/
def key : Action → String
  | .goto _ => questionKey
  | .set key _ => key
  | .copy _ key => key
  | .roll _ key => key
  | .arithmetic _ left _ => left

def read? : Instruction → List String → Option Action
  | .goto, [destination] => some (.goto destination)
  | .set, [key, content] => some (.set key content)
  | .copy, [origin, key] => some (.copy origin key)
  | .roll, [size, key] => some (.roll size key)
  | .arithmetic operation, [left, right] => some (.arithmetic operation left right)
  | _, _ => none

theorem read?_instruction_params (action : Action) :
    read? action.instruction action.params = some action := by
  cases action <;> rfl

/-- Parameters that pass the checks of a simple instruction are those of an action. -/
theorem exists_of_check {instruction : Instruction} {params : List String}
    (simple : instruction ≠ .conditional) (checked : instruction.check params = .ok ()) :
    ∃ action : Action, action.instruction = instruction ∧ action.params = params := by
  have single : ∀ count : Int, instruction.requirements = [.arity count] →
      (params.length : Int) = count := by
    intro count required
    rw [Instruction.check, Requirement.checkAll_eq_ok_iff, required] at checked
    have passed := checked (.arity count) (by simp)
    simp only [Requirement.check] at passed
    split at passed
    · assumption
    · cases passed
  cases instruction with
  | conditional => exact absurd rfl simple
  | goto =>
      obtain ⟨destination, rfl⟩ := List.length_eq_one_iff.1 (Int.ofNat.inj (single 1 rfl))
      exact ⟨.goto destination, rfl, rfl⟩
  | set =>
      obtain ⟨key, content, rfl⟩ := List.length_eq_two.1 (Int.ofNat.inj (single 2 rfl))
      exact ⟨.set key content, rfl, rfl⟩
  | copy =>
      obtain ⟨origin, key, rfl⟩ := List.length_eq_two.1 (Int.ofNat.inj (single 2 rfl))
      exact ⟨.copy origin key, rfl, rfl⟩
  | roll =>
      obtain ⟨size, key, rfl⟩ := List.length_eq_two.1 (Int.ofNat.inj (single 2 rfl))
      exact ⟨.roll size key, rfl, rfl⟩
  | arithmetic operation =>
      obtain ⟨left, right, rfl⟩ := List.length_eq_two.1 (Int.ofNat.inj (single 2 rfl))
      exact ⟨.arithmetic operation left right, rfl, rfl⟩

theorem ofStep_store (params : List String) (session : Session σ) (key : String)
    (value : Option Value) :
    Outcome.ofStep session (store params session key value) =
      session.settle key ((accept params value).map (·, session.source)) := by
  rw [store]
  cases accept params value <;> rfl

variable [Dice.Source σ]

/-- The value that an action writes at its key, and the source that is left. -/
def written (action : Action) (state : State) (source : σ) : Except Failure (Value × σ) :=
  match action with
  | .goto destination => (accept [destination] (some (.text destination))).map (·, source)
  | .set key content => (accept [key, content] (some (.text content))).map (·, source)
  | .copy origin key => (accept [origin, key] (state.get? origin)).map (·, source)
  | .roll size _ =>
      match die? size with
      | none => .error (.format .diceSize (.text size))
      | some die => .ok (.integer (die.cast source).1, (die.cast source).2)
  | .arithmetic operation left right =>
      (calculate state operation left right).map fun result => (.number result, source)

/-- A die never shows zero, so the number on it is always written. -/
theorem accept_cast (params : List String) (die : Die) (source : σ) :
    accept params (some (.integer (die.cast source).1)) = .ok (.integer (die.cast source).1) := by
  have shown : 1 ≤ (die.cast source).1 := Dice.roll_pos die.val die.property.1 source
  have counts : (Value.integer (die.cast source).1).isTrue = true :=
    Value.isTrue_integer.2 (by omega)
  rw [accept, Option.filter_some, if_pos counts]

/-- Without a die in it an action writes the same from any source, and leaves that source as it is. -/
theorem written_of_ne_roll {τ : Type} [Dice.Source τ] {action : Action}
    (still : action.instruction ≠ .roll) (state : State) (source : σ) (other : τ) :
    action.written state other =
      (action.written state source).map fun change => (change.1, other) := by
  have moved : ∀ {α : Type} (value : α → Value) (result : Except Failure α),
      result.map (fun found => (value found, other)) =
        (result.map fun found => (value found, source)).map fun change => (change.1, other) := by
    intro α value result
    cases result <;> rfl
  cases action with
  | goto destination => exact moved id _
  | set key content => exact moved id _
  | copy origin key => exact moved id _
  | roll size key => exact absurd rfl still
  | arithmetic operation left right => exact moved Value.number _

theorem act_eq_settle (action : Action) (session : Session σ) :
    act action.instruction action.params session =
      session.settle action.key (action.written session.state session.source) := by
  cases action with
  | goto destination => exact ofStep_store _ _ _ _
  | set key content => exact ofStep_store _ _ _ _
  | copy origin key => exact ofStep_store _ _ _ _
  | roll size key =>
      show rollDie [size, key] session size key = _
      rw [rollDie, written]
      cases die? size with
      | none => rfl
      | some die =>
          dsimp only
          rw [ofStep_store, accept_cast]
          rfl
  | arithmetic operation left right =>
      show Outcome.ofStep session ((calculate session.state operation left right).map _) = _
      rw [written]
      cases calculate session.state operation left right <;> rfl

theorem written_arithmetic {operation : Number.Operation} {left right : String} {state : State}
    {source rest : σ} {value : Value}
    (h : (arithmetic operation left right).written state source = .ok (value, rest)) :
    ∃ result, calculate state operation left right = .ok result ∧ value = .number result ∧
      rest = source := by
  unfold written at h
  dsimp only at h
  cases computed : calculate state operation left right with
  | error failure =>
      rw [computed] at h
      cases h
  | ok result =>
      rw [computed] at h
      cases h
      exact ⟨result, rfl, rfl, rfl⟩

/-- All that an action can write: a parameter or a value that the state holds, which count as true,
a roll, or a result of arithmetic. Only a roll takes from the source. -/
theorem written_cases {action : Action} {state : State} {source rest : σ} {value : Value}
    (h : action.written state source = .ok (value, rest)) :
    (∃ content ∈ action.params, value = .text content ∧ value.isTrue = true ∧ rest = source) ∨
      (∃ origin ∈ action.params, state.get? origin = some value ∧ value.isTrue = true ∧
        rest = source) ∨
      (∃ size key die, action = .roll size key ∧ die? size = some die ∧
        value = .integer (die.cast source).1 ∧ rest = (die.cast source).2) ∨
      ∃ operation left right result, action = .arithmetic operation left right ∧
        calculate state operation left right = .ok result ∧ value = .number result ∧
        rest = source := by
  have accepted : ∀ {params : List String} {held : Option Value},
      (accept params held).map (·, source) = .ok (value, rest) →
        held = some value ∧ value.isTrue = true ∧ rest = source := by
    intro params held settled
    cases found : accept params held with
    | error failure =>
        rw [found] at settled
        cases settled
    | ok kept =>
        rw [found] at settled
        cases settled
        exact ⟨(accept_eq_ok_iff.1 found).1, (accept_eq_ok_iff.1 found).2, rfl⟩
  cases action with
  | goto destination =>
      obtain ⟨same, counts, kept⟩ := accepted h
      exact .inl ⟨destination, List.mem_cons_self, (Option.some.inj same).symm, counts, kept⟩
  | set key content =>
      obtain ⟨same, counts, kept⟩ := accepted h
      exact .inl ⟨content, List.mem_cons_of_mem key List.mem_cons_self,
        (Option.some.inj same).symm, counts, kept⟩
  | copy origin key =>
      obtain ⟨held, counts, kept⟩ := accepted h
      exact .inr (.inl ⟨origin, List.mem_cons_self, held, counts, kept⟩)
  | roll size key =>
      unfold written at h
      dsimp only at h
      split at h
      · cases h
      · rename_i die found
        cases h
        exact .inr (.inr (.inl ⟨size, key, die, rfl, found, rfl, rfl⟩))
  | arithmetic operation left right =>
      obtain ⟨result, computed, written, kept⟩ := written_arithmetic h
      exact .inr (.inr (.inr ⟨operation, left, right, result, rfl, computed, written, kept⟩))

end Action

end NarrativeScript.Script
