import NarrativeScript.Dice.Prepared
import NarrativeScript.Proofs.Overflow
import NarrativeScript.Proofs.Reading

/-!
# What later statements see of a write

A value that counts as true is seen by every later reader of its key: a
condition compares it, and arithmetic takes the number it reads as. A value that
counts as false is stored and not seen; the key then stands for its own text in
a condition and for nothing in arithmetic. Only arithmetic writes such values.
-/

namespace NarrativeScript

open NarrativeScript.Number

namespace Condition

/-- The token spells neither an operand nor a connective, so a condition reads it as a value. -/
def StandsForValue (token : String) : Prop :=
  Operand.ofSpelling? token = none ∧ Connective.ofSpelling? token = none

instance : DecidablePred StandsForValue := fun _ => inferInstanceAs (Decidable (_ ∧ _))

theorem Operand.not_connective (operand : Operand) :
    Connective.ofSpelling? operand.spelling = none := by
  cases operand with
  | ordering relation => cases relation <;> decide
  | _ => decide

theorem resolve_set (state : State) (key : String) (value : Value) :
    resolve (state.set key value) key = if value.isTrue = true then value else .text key := by
  rw [resolve, State.get?_set_self]

/-- A comparison of two tokens compares what they stand for. -/
theorem evaluateTokens_comparison (state : State) {left right : String}
    (first : StandsForValue left) (second : StandsForValue right) (operand : Operand) :
    evaluateTokens state [left, operand.spelling, right] =
      .ok (operand.apply (some (resolve state left)) (some (resolve state right))) := by
  have uncut : splitTerms [left, operand.spelling, right] =
      ([[left, operand.spelling, right]], []) := by
    simp [splitTerms, first.2, second.2, operand.not_connective]
  have read : Draft.readAll state [left, operand.spelling, right] =
      some ⟨.rightBound, some (resolve state left), some (resolve state right), some operand⟩ := by
    simp [Draft.readAll, Draft.read, Draft.start, first.1, second.1,
      Operand.ofSpelling?_spelling, Phase.step]
  have compared : evaluateTerm state [left, operand.spelling, right] =
      .ok (operand.apply (some (resolve state left)) (some (resolve state right))) := by
    rw [evaluateTerm, read]
    rfl
  rw [evaluateTokens, uncut]
  dsimp only
  rw [List.mapM_cons, compared]
  rfl

end Condition

namespace Script

theorem operandValue?_set {key : String} (unspelled : Value.integerLiteral? key = none)
    (state : State) (value : Value) :
    operandValue? (state.set key value) key = (some value).filter Value.isTrue := by
  rw [operandValue?, unspelled, State.get?_set_self]
  rfl

theorem operandNumber_set_of_isTrue {key : String} (unspelled : Value.integerLiteral? key = none)
    (state : State) {value : Value} (counts : value.isTrue = true) (readable : ¬ value.numeric.IsNan)
    (bounded : ∀ number, value.numeric = .integer number → number.natAbs < overflowBound) :
    operandNumber (state.set key value) key = .ok value.numeric := by
  have fits : value.numeric.FitsBinary64 := by
    by_contra large
    obtain ⟨number, reads, beyond⟩ := not_fitsBinary64_iff.1 large
    exact Nat.not_lt_of_le beyond (bounded number reads)
  unfold operandNumber
  rw [operandValue?_set unspelled, Option.filter_some, if_pos counts]
  dsimp only
  rw [if_neg readable, if_pos fits]

theorem operandNumber_set_of_not_isTrue {key : String}
    (unspelled : Value.integerLiteral? key = none) (state : State) {value : Value}
    (empty : value.isTrue = false) :
    operandNumber (state.set key value) key = .error (.undefinedValue key) := by
  unfold operandNumber
  rw [operandValue?_set unspelled, Option.filter_some, if_neg (by simp [empty])]

namespace Action

variable {σ : Type}

variable [Dice.Source σ]

/-- Only the results of arithmetic are written whether they count as true or not. -/
theorem isTrue_of_written {action : Action} {state : State} {source rest : σ} {value : Value}
    (h : action.written state source = .ok (value, rest)) :
    value.isTrue = true ∨ ∃ operation left right, action = .arithmetic operation left right := by
  rcases written_cases h with ⟨content, -, -, counts, -⟩ | ⟨origin, -, -, counts, -⟩ |
    ⟨size, key, die, -, -, rfl, -⟩ | ⟨operation, left, right, result, rfl, -, -, -⟩
  · exact .inl counts
  · exact .inl counts
  · exact .inl (accept_eq_ok_iff.1 (accept_cast [] die source)).2
  · exact .inr ⟨operation, left, right, rfl⟩

end Action

variable {σ : Type} [Dice.Source σ]

/-- The statement succeeds by carrying out the action, directly or in a branch. -/
structure CarriesOut (context : Context) (piece : String) (session : Session σ) (action : Action)
    (after : Session σ) : Prop where
  single : ';' ∉ piece.toList
  target : descend context session.state (.ofPiece piece) = .ok (some action)
  success : runPiece (enter context) piece session = .done after

theorem CarriesOut.written {context : Context} {piece : String} {session after : Session σ}
    {action : Action} (h : CarriesOut context piece session action after) :
    ∃ value, action.written session.state session.source = .ok (value, after.source) ∧
      after.state = session.state.set action.key value := by
  have settled := h.success
  rw [runPiece_eq_runLine h.single, runLine_eq_settle, h.target] at settled
  dsimp only at settled
  cases written : action.written session.state session.source with
  | error failure =>
      rw [written] at settled
      cases settled
  | ok change =>
      rw [written] at settled
      cases settled
      exact ⟨change.1, rfl, rfl⟩

theorem carriesOut_of_descend {context : Context} {piece : String} {session : Session σ}
    {action : Action} (single : ';' ∉ piece.toList)
    (target : descend context session.state (.ofPiece piece) = .ok (some action))
    (success : (runPiece (enter context) piece session).failure? = none) :
    CarriesOut context piece session action (runPiece (enter context) piece session).session :=
  ⟨single, target, Outcome.eq_done success⟩

/-- A statement that succeeds carries out an action, or comes to none and does nothing. -/
theorem carriesOut_or_unchanged {context : Context} {piece : String} {session after : Session σ}
    (single : ';' ∉ piece.toList) (success : runPiece (enter context) piece session = .done after) :
    (∃ action, CarriesOut context piece session action after) ∨
      descend context session.state (.ofPiece piece) = .ok none ∧ after = session := by
  have settled := success
  rw [runPiece_eq_runLine single, runLine_eq_settle] at settled
  cases target : descend context session.state (.ofPiece piece) with
  | error failure =>
      rw [target] at settled
      cases settled
  | ok found =>
      cases found with
      | some action => exact .inl ⟨action, single, target, success⟩
      | none =>
          rw [target] at settled
          cases settled
          exact .inr ⟨rfl, rfl⟩

/-- Every reader of the key sees the value: conditions compare it, and arithmetic takes the number
it reads as, unless that is too large an integer. -/
structure Observed (state : State) (key : String) (value : Value) : Prop where
  resolved : Condition.resolve state key = value
  compared : ∀ (operand : Condition.Operand) (token : String), Condition.StandsForValue token →
    Condition.evaluateTokens state [key, operand.spelling, token] =
      .ok (operand.apply (some value) (some (Condition.resolve state token)))
  counted : ¬ value.numeric.IsNan →
    (∀ number, value.numeric = .integer number → number.natAbs < overflowBound) →
      operandNumber state key = .ok value.numeric

/-- No reader of the key sees what is stored there. -/
structure Unobserved (state : State) (key : String) : Prop where
  resolved : Condition.resolve state key = .text key
  refused : operandNumber state key = .error (.undefinedValue key)

theorem observed_set {key : String} (unspelled : Value.integerLiteral? key = none)
    (stands : Condition.StandsForValue key) (state : State) {value : Value}
    (counts : value.isTrue = true) : Observed (state.set key value) key value := by
  have resolved : Condition.resolve (state.set key value) key = value := by
    rw [Condition.resolve_set, if_pos counts]
  refine ⟨resolved, fun operand token other => ?_, operandNumber_set_of_isTrue unspelled _ counts⟩
  rw [Condition.evaluateTokens_comparison _ stands other, resolved]

theorem unobserved_set {key : String} (unspelled : Value.integerLiteral? key = none)
    (state : State) {value : Value} (empty : value.isTrue = false) :
    Unobserved (state.set key value) key := by
  refine ⟨?_, operandNumber_set_of_not_isTrue unspelled _ empty⟩
  rw [Condition.resolve_set, if_neg (by simp [empty])]

/-- What a statement writes at a key that is read as a value is seen there afterwards if it counts
as true. If it counts as false then arithmetic wrote it, and it is not seen. -/
theorem true_write_is_observed {context : Context} {piece : String} {session after : Session σ}
    {action : Action} (carried : CarriesOut context piece session action after)
    (unspelled : Value.integerLiteral? action.key = none)
    (stands : Condition.StandsForValue action.key) :
    ∃ value, after.state.get? action.key = some value ∧
      (value.isTrue = true → Observed after.state action.key value) ∧
      (value.isTrue = false →
        (∃ operation left right, action = .arithmetic operation left right) ∧
        Unobserved after.state action.key) := by
  obtain ⟨value, written, stored⟩ := carried.written
  rw [stored]
  refine ⟨value, State.get?_set_self _ _ _, observed_set unspelled stands _,
    fun empty => ⟨?_, unobserved_set unspelled _ empty⟩⟩
  rcases Action.isTrue_of_written written with counts | arithmetic
  · rw [counts] at empty
    cases empty
  · exact arithmetic

/-- Seven coins spent leave a zero, which nothing sees; a product in a branch is seen. -/
theorem zero_is_unobserved_and_product_is_observed :
    let session : Session Dice.Prepared :=
      ⟨.ofList [("gold", some (.integer 7)), ("rate", some (.text "3"))], ⟨[]⟩⟩
    let context : Context := ⟨0, 32⟩
    Value.integerLiteral? "gold" = none ∧ Condition.StandsForValue "gold" ∧
      (∃ after, CarriesOut context "SUB gold 7" session (.arithmetic .sub "gold" "7") after ∧
        after.state.get? "gold" = some (.integer 0) ∧ Unobserved after.state "gold") ∧
      ∃ after, CarriesOut context "IF gold > 3 THEN MUL gold rate ELSE GOTO inn" session
          (.arithmetic .mul "gold" "rate") after ∧
        after.state.get? "gold" = some (.integer 21) ∧ Observed after.state "gold" (.integer 21) := by
  intro session context
  have unspelled : Value.integerLiteral? "gold" = none := by decide +kernel
  have stands : Condition.StandsForValue "gold" := by decide +kernel
  refine ⟨unspelled, stands, ?_, ?_⟩
  · have turn : (Line.ofPiece "SUB gold 7").turn session.state =
        .simple (.arithmetic .sub) ["gold", "7"] := by decide +kernel
    have carried : CarriesOut context "SUB gold 7" session (.arithmetic .sub "gold" "7") _ :=
      carriesOut_of_descend (by decide) (descend_of_turn_simple turn) (by decide +kernel)
    obtain ⟨value, held, -, unseen⟩ := true_write_is_observed carried unspelled stands
    have zero : value = .integer 0 := Option.some.inj (held.symm.trans (by decide +kernel))
    subst zero
    exact ⟨_, carried, held, (unseen rfl).2⟩
  · have turn : (Line.ofPiece "IF gold > 3 THEN MUL gold rate ELSE GOTO inn").turn session.state =
        .enter ["MUL", "gold", "rate"] := by decide +kernel
    have branch : (Line.ofBranch ["MUL", "gold", "rate"]).turn session.state =
        .simple (.arithmetic .mul) ["gold", "rate"] := by decide +kernel
    have target : descend context session.state
        (.ofPiece "IF gold > 3 THEN MUL gold rate ELSE GOTO inn") =
        .ok (some (.arithmetic .mul "gold" "rate")) :=
      (descend_of_turn_enter turn rfl (by decide)).trans (descend_of_turn_simple branch)
    have carried := carriesOut_of_descend (by decide) target (by decide +kernel)
    obtain ⟨value, held, seen, -⟩ := true_write_is_observed carried unspelled stands
    have product : value = .integer 21 := Option.some.inj (held.symm.trans (by decide +kernel))
    subst product
    exact ⟨_, carried, held, seen rfl⟩

/-- A statement may succeed and write a value that later statements do not see. -/
theorem not_every_write_is_observed :
    ¬ ∀ (context : Context) (piece : String) (session after : Session Dice.Prepared)
      (action : Action) (value : Value), CarriesOut context piece session action after →
        after.state.get? action.key = some value → Value.integerLiteral? action.key = none →
          Condition.StandsForValue action.key →
            Condition.resolve after.state action.key = value ∧
              (¬ value.numeric.IsNan →
                operandNumber after.state action.key = .ok value.numeric) := by
  intro observed
  let session : Session Dice.Prepared := ⟨.ofList [("gold", some (.integer 1))], ⟨[]⟩⟩
  have turn : (Line.ofPiece "SUB gold 1").turn session.state =
      .simple (.arithmetic .sub) ["gold", "1"] := by decide +kernel
  have carried : CarriesOut ⟨0, 32⟩ "SUB gold 1" session (.arithmetic .sub "gold" "1") _ :=
    carriesOut_of_descend (by decide) (descend_of_turn_simple turn) (by decide +kernel)
  have seen := (observed _ _ _ _ _ (.integer 0) carried (by decide +kernel) (by decide +kernel)
    (by decide +kernel)).1
  have unseen : Condition.resolve (runPiece (enter ⟨0, 32⟩) "SUB gold 1" session).session.state "gold" =
      .text "gold" := by decide +kernel
  cases seen.symm.trans unseen

end Script

end NarrativeScript
