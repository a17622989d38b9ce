import NarrativeScript.Proofs.Descent

/-!
# Malformed statements

What a statement is checked for on its own level is how it is spelled: how many
words it has, its type, its parameters and its condition. A check that fails
names a fault of form or an unknown type. So neither a stored value that cannot
be used nor the nesting of the statement shows there.
-/

namespace NarrativeScript

/-- The failure is a fault of form or an unknown type. -/
def Failure.IsMalformed : Failure → Prop
  | .format _ _ | .unknownType _ => True
  | _ => False

namespace Failure

theorem isMalformed_format (fault : Fault) (excerpt : Excerpt) :
    (format fault excerpt).IsMalformed := trivial

theorem IsMalformed.isAuthored {failure : Failure} (h : failure.IsMalformed) :
    failure.IsAuthored := by
  cases failure with
  | format fault excerpt => rfl
  | unknownType word => rfl
  | _ => exact h.elim

end Failure

namespace Condition

theorem exists_of_mapM_error {α β ε : Type} {read : α → Except ε β} {items : List α} {error : ε}
    (h : items.mapM read = .error error) : ∃ item ∈ items, read item = .error error := by
  induction items with
  | nil => cases h
  | cons first rest ih =>
      rw [List.mapM_cons] at h
      cases here : read first with
      | error cause =>
          rw [here] at h
          cases h
          exact ⟨first, List.mem_cons_self, here⟩
      | ok result =>
          cases later : rest.mapM read with
          | error cause =>
              rw [here, later] at h
              cases h
              obtain ⟨item, member, failed⟩ := ih later
              exact ⟨item, List.mem_cons_of_mem first member, failed⟩
          | ok results =>
              rw [here, later] at h
              cases h

/-- A term that fails is shown, whichever of two faults it has. -/
theorem evaluateTerm_error {state : State} {tokens : List String} {failure : Failure}
    (h : evaluateTerm state tokens = .error failure) :
    failure = .format .malformedTerm (.text (Text.unwords tokens)) ∨
      failure = .format .termWithoutOperand (.text (Text.unwords tokens)) := by
  unfold evaluateTerm at h
  dsimp only at h
  split at h
  · cases h
    exact .inl rfl
  · split at h
    · cases h
      exact .inl rfl
    · split at h
      · cases h
        exact .inr rfl
      · cases h

theorem exists_of_evaluateTokens_error {state : State} {tokens : List String} {failure : Failure}
    (h : evaluateTokens state tokens = .error failure) :
    ∃ group, evaluateTerm state group = .error failure := by
  unfold evaluateTokens at h
  dsimp only at h
  cases read : (splitTerms tokens).1.mapM (evaluateTerm state) with
  | error cause =>
      rw [read] at h
      cases h
      obtain ⟨group, -, failed⟩ := exists_of_mapM_error read
      exact ⟨group, failed⟩
  | ok results =>
      rw [read] at h
      cases h

theorem isMalformed_of_evaluateTokens {state : State} {tokens : List String} {failure : Failure}
    (h : evaluateTokens state tokens = .error failure) : failure.IsMalformed := by
  obtain ⟨group, failed⟩ := exists_of_evaluateTokens_error h
  rcases evaluateTerm_error failed with rfl | rfl
  · exact Failure.isMalformed_format _ _
  · exact Failure.isMalformed_format _ _

end Condition

namespace Script

theorem Instruction.isMalformed_of_ofType {type : String} {failure : Failure}
    (h : Instruction.ofType type = .error failure) : failure.IsMalformed := by
  unfold Instruction.ofType at h
  split at h
  · cases h
  · cases h
    trivial

theorem Requirement.isMalformed_of_check {word : String} {params : List String}
    {requirement : Requirement} {failure : Failure}
    (h : requirement.check word params = .error failure) : failure.IsMalformed := by
  cases requirement <;> simp only [Requirement.check] at h <;> split at h <;> cases h <;>
    exact Failure.isMalformed_format _ _

theorem Requirement.exists_of_checkAll_error {word : String} {params : List String}
    {requirements : List Requirement} {failure : Failure}
    (h : Requirement.checkAll word params requirements = .error failure) :
    ∃ requirement ∈ requirements, requirement.check word params = .error failure := by
  induction requirements with
  | nil => cases h
  | cons requirement rest ih =>
      rw [Requirement.checkAll] at h
      cases result : requirement.check word params with
      | error cause =>
          rw [result] at h
          cases h
          exact ⟨requirement, List.mem_cons_self, result⟩
      | ok _ =>
          rw [result] at h
          obtain ⟨other, member, failed⟩ := ih h
          exact ⟨other, List.mem_cons_of_mem requirement member, failed⟩

theorem Requirement.isMalformed_of_checkAll {word : String} {params : List String}
    {requirements : List Requirement} {failure : Failure}
    (h : Requirement.checkAll word params requirements = .error failure) :
    failure.IsMalformed := by
  obtain ⟨requirement, -, failed⟩ := Requirement.exists_of_checkAll_error h
  exact Requirement.isMalformed_of_check failed

theorem exists_of_conditionalTurn_fail {state : State} {params : List String} {failure : Failure}
    (h : conditionalTurn state params = .fail failure) :
    ∃ tokens, Condition.evaluateTokens state tokens = .error failure := by
  unfold conditionalTurn at h
  dsimp only at h
  split at h
  · rename_i evaluated
    cases h
    exact ⟨_, evaluated⟩
  · split at h <;> cases h

/-- A line fails on its own level for its length, its type, its parameters or its condition. -/
theorem Line.turn_fail_cases {state : State} {line : Line} {failure : Failure}
    (h : line.turn state = .fail failure) :
    failure = .format .shortStatement (.text line.shown) ∨
      (∃ type ∈ line.tokens, Instruction.ofType type = .error failure) ∨
      (∃ (instruction : Instruction) (params : List String),
        instruction.check params = .error failure) ∨
      ∃ tokens, Condition.evaluateTokens state tokens = .error failure := by
  unfold Line.turn at h
  split at h
  · rename_i type first rest tokens
    cases typed : Instruction.ofType type with
    | error cause =>
        rw [typed] at h
        cases h
        exact .inr (.inl ⟨type, by simp [tokens], typed⟩)
    | ok instruction =>
        simp only [typed] at h
        cases checked : instruction.check (first :: rest) with
        | error cause =>
            rw [checked] at h
            cases h
            exact .inr (.inr (.inl ⟨instruction, first :: rest, checked⟩))
        | ok _ =>
            simp only [checked] at h
            split at h
            · exact .inr (.inr (.inr (exists_of_conditionalTurn_fail h)))
            · cases h
  · cases h
    exact .inl rfl

theorem Line.isMalformed_of_turn {state : State} {line : Line} {failure : Failure}
    (h : line.turn state = .fail failure) : failure.IsMalformed := by
  rcases Line.turn_fail_cases h with
    rfl | ⟨type, -, typed⟩ | ⟨instruction, params, checked⟩ | ⟨tokens, evaluated⟩
  · exact Failure.isMalformed_format _ _
  · exact Instruction.isMalformed_of_ofType typed
  · exact Requirement.isMalformed_of_checkAll checked
  · exact Condition.isMalformed_of_evaluateTokens evaluated

end Script

end NarrativeScript
