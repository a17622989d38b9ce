import NarrativeScript.Proofs.Atomicity
import NarrativeScript.Proofs.Magnitude

/-!
# Operands that are too large

Every failure of a run lies in the script, with one exception. An operand of
arithmetic that reads as an integer too large for binary64 fails, and that
failure is nobody's fault in the script. Here is exactly when a run ends so.
-/

namespace NarrativeScript.Script

open NarrativeScript.Number

/-- The operand reads as an integer that no binary64 number is near to. -/
def Oversized (state : State) (token : String) : Prop :=
  ∃ value number, operandValue? state token = some value ∧ value.numeric = .integer number ∧
    overflowBound ≤ number.natAbs

/-- The operand reads as a number that arithmetic accepts. -/
def Usable (state : State) (token : String) : Prop :=
  ∃ value, operandValue? state token = some value ∧ ¬ value.numeric.IsNan ∧ ¬ Oversized state token

theorem not_fitsBinary64_iff {number : Number} :
    ¬ number.FitsBinary64 ↔ ∃ value, number = .integer value ∧ overflowBound ≤ value.natAbs := by
  cases number with
  | integer value =>
      rw [fitsBinary64_integer_iff]
      constructor
      · intro large
        exact ⟨value, rfl, Nat.le_of_not_lt large⟩
      · rintro ⟨_, same, large⟩
        cases same
        exact Nat.not_lt_of_le large
  | real value =>
      constructor
      · intro impossible
        exact absurd trivial impossible
      · rintro ⟨_, same, -⟩
        cases same

theorem oversized_iff {state : State} {token : String} {value : Value}
    (found : operandValue? state token = some value) :
    Oversized state token ↔ ¬ value.numeric.FitsBinary64 := by
  rw [not_fitsBinary64_iff]
  constructor
  · rintro ⟨other, number, same, reads, large⟩
    cases found.symm.trans same
    exact ⟨number, reads, large⟩
  · rintro ⟨number, reads, large⟩
    exact ⟨value, number, found, reads, large⟩

/-- An operand is accepted, is too large, or has no use; each shows in the answer. -/
theorem operandNumber_cases (state : State) (token : String) :
    (Usable state token ∧ ∃ number, operandNumber state token = .ok number) ∨
      (Oversized state token ∧ operandNumber state token = .error .oversizedInteger) ∨
      (¬ Usable state token ∧ ¬ Oversized state token ∧
        operandNumber state token = .error (.undefinedValue token)) := by
  unfold operandNumber
  cases found : operandValue? state token with
  | none =>
      refine .inr (.inr ⟨?_, ?_, rfl⟩)
      · rintro ⟨value, same, -⟩
        cases found.symm.trans same
      · rintro ⟨value, number, same, -⟩
        cases found.symm.trans same
  | some value =>
      dsimp only
      by_cases unreadable : value.numeric.IsNan
      · rw [if_pos unreadable]
        refine .inr (.inr ⟨?_, ?_, rfl⟩)
        · rintro ⟨other, same, readable, -⟩
          cases found.symm.trans same
          exact readable unreadable
        · rintro ⟨other, number, same, reads, -⟩
          cases found.symm.trans same
          rw [reads] at unreadable
          cases unreadable
      · rw [if_neg unreadable]
        by_cases fits : value.numeric.FitsBinary64
        · rw [if_pos fits]
          have bounded : ¬ Oversized state token := fun large => (oversized_iff found).1 large fits
          exact .inl ⟨⟨value, found, unreadable, bounded⟩, value.numeric, rfl⟩
        · rw [if_neg fits]
          exact .inr (.inl ⟨(oversized_iff found).2 fits, rfl⟩)

theorem not_usable_of_oversized {state : State} {token : String} (large : Oversized state token) :
    ¬ Usable state token :=
  fun ⟨_, _, _, bounded⟩ => bounded large

/-- The operand that is looked at first among those with a fault is too large. -/
def Overflowing (state : State) (left right : String) : Prop :=
  Oversized state left ∨ Usable state left ∧ Oversized state right

theorem exists_result?_of_operandNumber {state : State} {left right : String}
    {first second : Number} (operation : Operation) (here : operandNumber state left = .ok first)
    (there : operandNumber state right = .ok second) :
    ∃ result, operation.result? first second = some result :=
  Option.isSome_iff_exists.1 (operation.result?_isSome (fitsBinary64_of_operandNumber here)
    (fitsBinary64_of_operandNumber there))

/-- The left operand is looked at first; once both are accepted the operation has a result. -/
theorem calculate_cases (state : State) (operation : Operation) (left right : String) :
    (¬ Overflowing state left right ∧ ∃ result, calculate state operation left right = .ok result) ∨
      (Overflowing state left right ∧
        calculate state operation left right = .error .oversizedInteger) ∨
      (¬ Overflowing state left right ∧
        ∃ token, calculate state operation left right = .error (.undefinedValue token)) := by
  unfold calculate Overflowing
  rcases operandNumber_cases state left with
    ⟨usable, first, read⟩ | ⟨large, read⟩ | ⟨useless, bounded, read⟩
  · have small : ¬ Oversized state left := fun large => not_usable_of_oversized large usable
    rcases operandNumber_cases state right with
      ⟨fine, second, reads⟩ | ⟨large, reads⟩ | ⟨-, bounded, reads⟩
    · have smaller : ¬ Oversized state right := fun large => not_usable_of_oversized large fine
      obtain ⟨result, computed⟩ := exists_result?_of_operandNumber operation read reads
      exact .inl ⟨by simp [small, smaller], result, by simp [read, reads, computed]⟩
    · exact .inr (.inl ⟨.inr ⟨usable, large⟩, by simp [read, reads]⟩)
    · exact .inr (.inr ⟨by simp [small, bounded], right, by simp [read, reads]⟩)
  · exact .inr (.inl ⟨.inl large, by simp [read]⟩)
  · exact .inr (.inr ⟨by simp [bounded, useless], left, by simp [read]⟩)

end NarrativeScript.Script
