import Mathlib.Data.List.Basic
import Mathlib.Data.List.Induction
import NarrativeScript.Condition.Term

/-!
# The language of terms

What a token is in a term shows in its spelling alone: it is an operand or a
value. A term is accepted when it is two values with any number of operands
behind each of them, and at least one operand in all. The last operand then
compares the first value with the second, wherever it stands. Two values alone
lack an operand, and all else is malformed, whatever the state holds.
-/

namespace NarrativeScript

/-- Two texts are in order by code point and two numbers by size. No other pair is in any order. -/
def Relation.ofLike? (relation : Relation) : Option Value → Option Value → Option Bool
  | some (.text left), some (.text right) => some (relation.onTexts left right)
  | some (.number left), some (.number right) => some (relation.onNumbers left right)
  | _, _ => none

/-- Orders two canonical texts as they are, and every other pair by its numeric readings. -/
def Relation.holds? (relation : Relation) (left right : Option Value) : Option Bool :=
  let first := left.map Value.canonical
  let second := right.map Value.canonical
  if Value.kind first = .text ∧ Value.kind second = .text then relation.ofLike? first second
  else
    relation.ofLike? (some (.number (Value.numericReading left)))
      (some (.number (Value.numericReading right)))

theorem Relation.holds?_eq (relation : Relation) (left right : Option Value) :
    relation.holds? left right = some (relation.holds left right) := by
  unfold holds? holds
  dsimp only
  split
  · rename_i texts
    obtain ⟨first, second⟩ := texts
    cases here : left.map Value.canonical with
    | none => simp [here, Value.kind] at first
    | some value =>
        cases there : right.map Value.canonical with
        | none => simp [there, Value.kind] at second
        | some other => cases value <;> cases other <;> simp_all [Value.kind, ofLike?]
  · rename_i other
    split
    · rename_i first second here there
      exact absurd ⟨by rw [here]; rfl, by rw [there]; rfl⟩ other
    · rfl

namespace Condition

/-- Applies the operand where an ordering might meet two values that are in no order. -/
def Operand.apply? (operand : Operand) (left right : Option Value) : Option Bool :=
  match operand with
  | .ordering relation => relation.holds? left right
  | operand => some (operand.apply left right)

theorem Operand.apply?_eq (operand : Operand) (left right : Option Value) :
    operand.apply? left right = some (operand.apply left right) := by
  cases operand with
  | ordering relation => exact relation.holds?_eq left right
  | _ => rfl

/-- What a token is in a term. -/
inductive Role where
  | value
  | operand
  deriving DecidableEq, Repr

def Role.event : Role → Event
  | .value => .readValue
  | .operand => .readOperand

def role (token : String) : Role :=
  if (Operand.ofSpelling? token).isSome then .operand else .value

/-- A value, so many operands, a second value, and so many operands again. -/
def shape (between after : Nat) : List Role :=
  .value :: (List.replicate between .operand ++ .value :: List.replicate after .operand)

/-- The tokens of the term that stand for values. -/
def valueTokens (tokens : List String) : List String :=
  tokens.filter fun token => role token = .value

/-- The operands that tokens of the term spell. -/
def operands (tokens : List String) : List Operand :=
  tokens.filterMap Operand.ofSpelling?

theorem role_eq_operand_iff {token : String} :
    role token = .operand ↔ ∃ operand, Operand.ofSpelling? token = some operand := by
  cases found : Operand.ofSpelling? token <;> simp [role, found]

theorem role_eq_value_iff {token : String} :
    role token = .value ↔ Operand.ofSpelling? token = none := by
  cases found : Operand.ofSpelling? token <;> simp [role, found]

theorem length_valueTokens (tokens : List String) :
    (valueTokens tokens).length = (tokens.map role).count .value := by
  rw [valueTokens, ← List.countP_eq_length_filter, List.count_eq_countP, List.countP_map]
  congr 1

theorem length_operands (tokens : List String) :
    (operands tokens).length = (tokens.map role).count .operand := by
  induction tokens with
  | nil => rfl
  | cons token rest ih =>
      rw [operands] at ih ⊢
      cases found : Operand.ofSpelling? token with
      | none => simp [found, ih, role_eq_value_iff.2 found]
      | some operand => simp [found, ih, role_eq_operand_iff.2 ⟨operand, found⟩]

/-! ### The phases of a term -/

/-- The phase that the roles lead to from a phase, if each of them is allowed in its turn. -/
def Phase.readRoles (phase : Phase) (roles : List Role) : Option Phase :=
  roles.foldlM (fun phase role => phase.step role.event) phase

/-- The roles that lead to a phase from the empty one. -/
def Phase.Reads : Phase → List Role → Prop
  | .empty, roles => roles = []
  | .leftBound, roles => ∃ between, roles = .value :: List.replicate between .operand
  | .rightBound, roles => ∃ between after, roles = shape between after
  | .closed, _ => False

namespace Phase

theorem Reads.step {phase next : Phase} {roles : List Role} {role : Role} (h : phase.Reads roles)
    (allowed : phase.step role.event = some next) : next.Reads (roles ++ [role]) := by
  cases phase with
  | empty =>
      cases h
      cases role <;> cases allowed
      exact ⟨0, rfl⟩
  | leftBound =>
      obtain ⟨between, rfl⟩ := h
      cases role <;> cases allowed
      · exact ⟨between, 0, by simp [shape]⟩
      · exact ⟨between + 1, by simp [List.replicate_succ']⟩
  | rightBound =>
      obtain ⟨between, after, rfl⟩ := h
      cases role <;> cases allowed
      exact ⟨between, after + 1, by simp [shape, List.replicate_succ']⟩
  | closed => exact h.elim

theorem readRoles_append (phase : Phase) (first second : List Role) :
    phase.readRoles (first ++ second) = (phase.readRoles first).bind (·.readRoles second) := by
  rw [readRoles, List.foldlM_append]
  rfl

theorem readRoles_single (phase : Phase) (role : Role) :
    phase.readRoles [role] = phase.step role.event := by
  simp [readRoles]

/-- By induction from the end: the last role is allowed in the phase that the others lead to. -/
theorem reads_of_readRoles {phase : Phase} {roles : List Role}
    (h : Phase.empty.readRoles roles = some phase) : phase.Reads roles := by
  induction roles using List.reverseRecOn generalizing phase with
  | nil =>
      cases h
      rfl
  | append_singleton roles role ih =>
      rw [readRoles_append, Option.bind_eq_some_iff] at h
      obtain ⟨before, led, allowed⟩ := h
      rw [readRoles_single] at allowed
      exact (ih led).step allowed

theorem readRoles_operands {phase : Phase} (allowed : phase.step .readOperand = some phase)
    (count : Nat) : phase.readRoles (List.replicate count .operand) = some phase := by
  induction count with
  | zero => rfl
  | succ count ih =>
      have first : phase.step Role.operand.event = some phase := allowed
      rw [List.replicate_succ, readRoles, List.foldlM_cons, first]
      exact ih

theorem readRoles_shape (between after : Nat) :
    Phase.empty.readRoles (shape between after) = some .rightBound := by
  have left : Phase.leftBound.readRoles (List.replicate between .operand) = some .leftBound :=
    readRoles_operands rfl between
  have right : Phase.rightBound.readRoles (List.replicate after .operand) = some .rightBound :=
    readRoles_operands rfl after
  show Phase.leftBound.readRoles _ = _
  rw [readRoles_append, left, Option.bind_some]
  exact right

/-- A term can be closed exactly behind roles of an accepted shape. -/
theorem readRoles_eq_rightBound_iff {roles : List Role} :
    Phase.empty.readRoles roles = some .rightBound ↔
      ∃ between after, roles = shape between after := by
  constructor
  · exact reads_of_readRoles
  · rintro ⟨between, after, rfl⟩
    exact readRoles_shape between after

/-- How many values have been read in a phase. -/
def values : Phase → Nat
  | .empty => 0
  | .leftBound => 1
  | .rightBound | .closed => 2

theorem Reads.count_value {phase : Phase} {roles : List Role} (h : phase.Reads roles) :
    roles.count .value = phase.values := by
  cases phase with
  | empty => simp [show roles = [] from h, values]
  | leftBound =>
      obtain ⟨between, rfl⟩ := h
      simp [values, List.count_replicate]
  | rightBound =>
      obtain ⟨between, after, rfl⟩ := h
      simp [shape, values, List.count_replicate]
  | closed => exact h.elim

end Phase

theorem valueTokens_append (first second : List String) :
    valueTokens (first ++ second) = valueTokens first ++ valueTokens second :=
  List.filter_append first second

theorem operands_append (first second : List String) :
    operands (first ++ second) = operands first ++ operands second :=
  List.filterMap_append

/-- By induction from the end. The phase tells how many values have been read, so it tells which of
the two a further one is. -/
theorem Draft.readAll_eq (state : State) (tokens : List String) :
    Draft.readAll state tokens =
      (Phase.empty.readRoles (tokens.map role)).map fun phase =>
        ⟨phase, (valueTokens tokens)[0]?.map (resolve state),
          (valueTokens tokens)[1]?.map (resolve state), (operands tokens).getLast?⟩ := by
  induction tokens using List.reverseRecOn with
  | nil => rfl
  | append_singleton tokens token ih =>
      have unfolded : Draft.readAll state (tokens ++ [token]) =
          (Draft.readAll state tokens).bind fun draft => draft.read state token := by
        simp [Draft.readAll]
      rw [unfolded, ih, List.map_append, Phase.readRoles_append]
      cases led : Phase.empty.readRoles (tokens.map role) with
      | none => rfl
      | some phase =>
          have count : (valueTokens tokens).length = phase.values := by
            rw [length_valueTokens]
            exact (Phase.reads_of_readRoles led).count_value
          rw [Option.map_some, Option.bind_some, Option.bind_some, List.map_singleton,
            Phase.readRoles_single, valueTokens_append, operands_append]
          cases found : Operand.ofSpelling? token with
          | some operand =>
              have here : role token = .operand := role_eq_operand_iff.2 ⟨operand, found⟩
              have values : valueTokens [token] = [] := by simp [valueTokens, here]
              have spelled : operands [token] = [operand] := by simp [operands, found]
              simp [Draft.read, found, here, Role.event, values, spelled]
          | none =>
              have here : role token = .value := role_eq_value_iff.2 found
              have values : valueTokens [token] = [token] := by simp [valueTokens, here]
              have spelled : operands [token] = [] := by simp [operands, found]
              simp only [Draft.read, found, here, Role.event, values, spelled, List.append_nil]
              cases phase with
              | empty =>
                  have before : valueTokens tokens = [] := List.length_eq_zero_iff.1 count
                  simp [Phase.step, before]
              | leftBound =>
                  obtain ⟨first, before⟩ := List.length_eq_one_iff.1 count
                  simp [Phase.step, before]
              | rightBound => rfl
              | closed => rfl

/-- The token stands for the value: for what the state holds under it, if that counts as true, and
otherwise for its own text. -/
def Denotes (state : State) (token : String) (value : Value) : Prop :=
  (state.get? token = some value ∧ value.isTrue = true) ∨
    (∀ held, state.get? token = some held → held.isTrue = false) ∧ value = .text token

theorem resolve_eq_iff {state : State} {token : String} {value : Value} :
    resolve state token = value ↔ Denotes state token value := by
  unfold resolve Denotes
  cases state.get? token with
  | none =>
      constructor
      · rintro rfl
        refine .inr ⟨?_, rfl⟩
        rintro held ⟨⟩
      · rintro (⟨absent, -⟩ | ⟨-, same⟩)
        · cases absent
        · exact same.symm
  | some held =>
      cases counts : held.isTrue with
      | true =>
          simp only [counts, if_true]
          constructor
          · rintro rfl
            exact .inl ⟨rfl, counts⟩
          · rintro (⟨same, -⟩ | ⟨blank, -⟩)
            · exact Option.some.inj same
            · cases counts.symm.trans (blank held rfl)
      | false =>
          simp only [counts, Bool.false_eq_true, if_false]
          constructor
          · rintro rfl
            refine .inr ⟨?_, rfl⟩
            rintro other ⟨⟩
            exact counts
          · rintro (⟨same, holds⟩ | ⟨-, same⟩)
            · cases same
              cases counts.symm.trans holds
            · exact same.symm

/-! ### Accepted terms -/

/-- The roles of the tokens are of an accepted shape, and there is an operand among them. -/
def IsComparison (tokens : List String) : Prop :=
  ∃ between after, 1 ≤ between + after ∧ tokens.map role = shape between after

theorem count_operand_shape (between after : Nat) :
    (shape between after).count .operand = between + after := by
  simp [shape]

theorem shape_zero : shape 0 0 = [.value, .value] := rfl

theorem shape_eq_pair_iff {between after : Nat} :
    shape between after = [.value, .value] ↔ between + after = 0 := by
  constructor
  · intro same
    rw [← count_operand_shape, same]
    rfl
  · intro bare
    rw [show between = 0 from by omega, show after = 0 from by omega, shape_zero]

/-- Two values alone lack an operand, and all else that is not accepted is malformed. -/
def termFailure (tokens : List String) : Failure :=
  .format (if tokens.map role = [.value, .value] then .termWithoutOperand else .malformedTerm)
    (.text (Text.unwords tokens))

theorem evaluateTerm_of_ne_shape (state : State) {tokens : List String}
    (other : ∀ between after, tokens.map role ≠ shape between after) :
    evaluateTerm state tokens = .error (.format .malformedTerm (.text (Text.unwords tokens))) := by
  unfold evaluateTerm
  rw [Draft.readAll_eq]
  cases led : Phase.empty.readRoles (tokens.map role) with
  | none => rfl
  | some phase =>
      cases phase with
      | rightBound =>
          obtain ⟨between, after, same⟩ := Phase.readRoles_eq_rightBound_iff.1 led
          exact absurd same (other between after)
      | _ => rfl

theorem evaluateTerm_of_shape (state : State) {tokens : List String} {between after : Nat}
    (same : tokens.map role = shape between after) :
    ∃ left right, valueTokens tokens = [left, right] ∧
      evaluateTerm state tokens =
        match (operands tokens).getLast? with
        | none => .error (.format .termWithoutOperand (.text (Text.unwords tokens)))
        | some operand =>
            .ok (operand.apply (some (resolve state left)) (some (resolve state right))) := by
  have led : Phase.empty.readRoles (tokens.map role) = some .rightBound := by
    rw [same]
    exact Phase.readRoles_shape between after
  have count : (valueTokens tokens).length = 2 := by
    rw [length_valueTokens]
    exact (Phase.reads_of_readRoles led).count_value
  obtain ⟨left, right, values⟩ := List.length_eq_two.1 count
  refine ⟨left, right, values, ?_⟩
  rw [evaluateTerm, Draft.readAll_eq, led, values]
  rfl

theorem evaluateTerm_of_pair (state : State) {tokens : List String}
    (pair : tokens.map role = [.value, .value]) :
    evaluateTerm state tokens =
      .error (.format .termWithoutOperand (.text (Text.unwords tokens))) := by
  obtain ⟨left, right, -, evaluated⟩ := evaluateTerm_of_shape state (pair.trans shape_zero.symm)
  have bare : operands tokens = [] := by
    rw [← List.length_eq_zero_iff, length_operands, pair]
    rfl
  rw [evaluated, bare]
  rfl

/-- The last operand compares the first value with the second. -/
theorem IsComparison.evaluateTerm_eq {tokens : List String} (h : IsComparison tokens)
    (state : State) :
    ∃ left right operand, valueTokens tokens = [left, right] ∧
      (operands tokens).getLast? = some operand ∧
      evaluateTerm state tokens =
        .ok (operand.apply (some (resolve state left)) (some (resolve state right))) := by
  obtain ⟨between, after, present, same⟩ := h
  obtain ⟨left, right, values, evaluated⟩ := evaluateTerm_of_shape state same
  have filled : operands tokens ≠ [] := by
    rw [← List.length_pos_iff, length_operands, same, count_operand_shape]
    exact present
  have last := List.getLast?_eq_some_getLast filled
  refine ⟨left, right, _, values, last, ?_⟩
  rw [evaluated, last]

theorem evaluateTerm_of_not_isComparison (state : State) {tokens : List String}
    (h : ¬ IsComparison tokens) : evaluateTerm state tokens = .error (termFailure tokens) := by
  rw [termFailure]
  split
  · rename_i pair
    exact evaluateTerm_of_pair state pair
  · rename_i other
    apply evaluateTerm_of_ne_shape
    intro between after same
    refine h ⟨between, after, Nat.one_le_iff_ne_zero.2 fun bare => other ?_, same⟩
    rw [same, shape_eq_pair_iff]
    exact bare

theorem exists_evaluateTerm_eq_ok_iff {state : State} {tokens : List String} :
    (∃ result, evaluateTerm state tokens = .ok result) ↔ IsComparison tokens := by
  constructor
  · rintro ⟨result, accepted⟩
    by_contra other
    rw [evaluateTerm_of_not_isComparison state other] at accepted
    cases accepted
  · intro comparison
    obtain ⟨left, right, operand, -, -, evaluated⟩ := comparison.evaluateTerm_eq state
    exact ⟨_, evaluated⟩

theorem evaluateTerm_eq_error_iff {state : State} {tokens : List String} {failure : Failure} :
    evaluateTerm state tokens = .error failure ↔
      ¬ IsComparison tokens ∧ failure = termFailure tokens := by
  constructor
  · intro failed
    have other : ¬ IsComparison tokens := by
      intro comparison
      obtain ⟨result, accepted⟩ := exists_evaluateTerm_eq_ok_iff.2 comparison
      rw [accepted] at failed
      cases failed
    rw [evaluateTerm_of_not_isComparison state other] at failed
    cases failed
    exact ⟨other, rfl⟩
  · rintro ⟨other, rfl⟩
    exact evaluateTerm_of_not_isComparison state other

theorem isComparison_iff {tokens : List String} :
    IsComparison tokens ↔
      Phase.empty.readRoles (tokens.map role) = some .rightBound ∧
        tokens.map role ≠ [.value, .value] := by
  rw [Phase.readRoles_eq_rightBound_iff]
  constructor
  · rintro ⟨between, after, present, same⟩
    refine ⟨⟨between, after, same⟩, fun pair => ?_⟩
    rw [same, shape_eq_pair_iff] at pair
    omega
  · rintro ⟨⟨between, after, same⟩, other⟩
    rw [same, ne_eq, shape_eq_pair_iff] at other
    exact ⟨between, after, Nat.one_le_iff_ne_zero.2 other, same⟩

instance : DecidablePred IsComparison :=
  fun _ => decidable_of_iff _ isComparison_iff.symm

theorem not_isComparison_of_pair {tokens : List String}
    (pair : tokens.map role = [.value, .value]) : ¬ IsComparison tokens :=
  fun comparison => (isComparison_iff.1 comparison).2 pair

theorem termFailure_eq_termWithoutOperand_iff {tokens : List String} :
    termFailure tokens = .format .termWithoutOperand (.text (Text.unwords tokens)) ↔
      tokens.map role = [.value, .value] := by
  unfold termFailure
  split <;> simp [*]

theorem termFailure_eq_malformedTerm_iff {tokens : List String} :
    termFailure tokens = .format .malformedTerm (.text (Text.unwords tokens)) ↔
      tokens.map role ≠ [.value, .value] := by
  unfold termFailure
  split <;> simp [*]

/-- A term is accepted exactly when its tokens are two values with operands behind them, by their
spelling alone, and its value is what the last operand says of the two. Two values without an
operand and all other terms fail, each with a message of its own, and no pair of values is
refused. -/
theorem terms_are_two_values_and_operands (tokens : List String) :
    (∀ state : State,
      ((∃ result, evaluateTerm state tokens = .ok result) ↔ IsComparison tokens) ∧
        (∀ result, evaluateTerm state tokens = .ok result ↔
          IsComparison tokens ∧ ∃ left right operand first second,
            valueTokens tokens = [left, right] ∧ (operands tokens).getLast? = some operand ∧
            Denotes state left first ∧ Denotes state right second ∧
            operand.apply (some first) (some second) = result) ∧
        (evaluateTerm state tokens =
            .error (.format .termWithoutOperand (.text (Text.unwords tokens))) ↔
          tokens.map role = [.value, .value]) ∧
        (evaluateTerm state tokens =
            .error (.format .malformedTerm (.text (Text.unwords tokens))) ↔
          ¬ IsComparison tokens ∧ tokens.map role ≠ [.value, .value])) ∧
      (∀ (state other : State) (failure : Failure),
        evaluateTerm state tokens = .error failure ↔ evaluateTerm other tokens = .error failure) ∧
      (∀ (operand : Operand) (left right : Option Value),
        operand.apply? left right = some (operand.apply left right)) ∧
      Fault.termWithoutOperand.message = "Conditional term has no operand" ∧
      Fault.malformedTerm.message = "Malformed conditional term" := by
  refine ⟨fun state => ⟨exists_evaluateTerm_eq_ok_iff, fun result => ?_, ?_, ?_⟩, ?_,
    Operand.apply?_eq, rfl, rfl⟩
  · constructor
    · intro accepted
      have comparison : IsComparison tokens := exists_evaluateTerm_eq_ok_iff.1 ⟨result, accepted⟩
      obtain ⟨left, right, operand, values, last, evaluated⟩ := comparison.evaluateTerm_eq state
      rw [accepted] at evaluated
      exact ⟨comparison, left, right, operand, _, _, values, last, resolve_eq_iff.1 rfl,
        resolve_eq_iff.1 rfl, (Except.ok.inj evaluated).symm⟩
    · rintro ⟨comparison, left, right, operand, first, second, values, last, here, there, rfl⟩
      obtain ⟨one, other, final, tokens, operands, evaluated⟩ := comparison.evaluateTerm_eq state
      cases values.symm.trans tokens
      cases last.symm.trans operands
      rw [evaluated, resolve_eq_iff.2 here, resolve_eq_iff.2 there]
  · rw [evaluateTerm_eq_error_iff, eq_comm, termFailure_eq_termWithoutOperand_iff]
    exact ⟨fun h => h.2, fun pair => ⟨not_isComparison_of_pair pair, pair⟩⟩
  · rw [evaluateTerm_eq_error_iff, eq_comm, termFailure_eq_malformedTerm_iff]
  · intro state other failure
    rw [evaluateTerm_eq_error_iff, evaluateTerm_eq_error_iff]

/-- The state holds an operand spelling under `mode`, which makes `mode` no operand, and a zero under
`x`, which is passed over. Of the three operands the last decides, behind both values. Where nothing
is held the two tokens compare the other way. -/
theorem stored_spelling_is_compared :
    let state : State := .ofList [("mode", some (.text "<")), ("x", some (.integer 0))]
    let tokens := ["mode", "IS", "x", "==", "<"]
    tokens.map role = shape 1 2 ∧
      (Denotes state "mode" (.text "<") ∧ Denotes state "x" (.text "x")) ∧
      evaluateTerm state tokens = .ok true ∧
      evaluateTerm (.ofList [("mode", some (.text "y"))]) tokens = .ok false ∧
      evaluateTerm state ["mode", "x"] =
        .error (.format .termWithoutOperand (.text "mode x")) ∧
      evaluateTerm state ["mode", "IS", "<"] =
        .error (.format .malformedTerm (.text "mode IS <")) := by
  intro state tokens
  have roles : tokens.map role = shape 1 2 := by decide +kernel
  have comparison : IsComparison tokens := ⟨1, 2, by decide, roles⟩
  have held : Denotes state "mode" (.text "<") := .inl ⟨by decide +kernel, by decide⟩
  have zero : Denotes state "x" (.text "x") := resolve_eq_iff.1 (by decide +kernel)
  have other : Denotes (.ofList [("mode", some (.text "y"))]) "mode" (.text "y") :=
    .inl ⟨by decide +kernel, by decide⟩
  have absent : Denotes (.ofList [("mode", some (.text "y"))]) "x" (.text "x") :=
    resolve_eq_iff.1 (by decide +kernel)
  refine ⟨roles, ⟨held, zero⟩, ?_, ?_, ?_, ?_⟩
  · exact ((terms_are_two_values_and_operands tokens).1 state).2.1 true |>.2
      ⟨comparison, "mode", "x", .ordering .less, _, _, by decide +kernel, by decide +kernel, held,
        zero, by decide +kernel⟩
  · exact ((terms_are_two_values_and_operands tokens).1 _).2.1 false |>.2
      ⟨comparison, "mode", "x", .ordering .less, _, _, by decide +kernel, by decide +kernel, other,
        absent, by decide +kernel⟩
  · exact ((terms_are_two_values_and_operands ["mode", "x"]).1 state).2.2.1.2 (by decide +kernel)
  · exact ((terms_are_two_values_and_operands ["mode", "IS", "<"]).1 state).2.2.2.2
      (by decide +kernel)

end Condition

end NarrativeScript
