import NarrativeScript.Proofs.Descent

/-!
# What a script reads

Wherever a state is read, a value that counts as false is passed over like an
absent one. What is left of an entry is what the state shows at a key. A line
depends on a state only through what it shows at the tokens of the line: two
states that show the same there choose the same branches, lead to the same
action and have it write the same value.
-/

namespace NarrativeScript

namespace State

/-- The value at a key, if it counts as true. -/
def visible? (state : State) (key : String) : Option Value :=
  (state.get? key).filter Value.isTrue

/-- The states show the same at each of the keys. -/
def AgreeOn (keys : List String) (first second : State) : Prop :=
  ∀ key ∈ keys, first.visible? key = second.visible? key

theorem AgreeOn.mono {keys fewer : List String} {first second : State}
    (agree : AgreeOn keys first second) (h : ∀ key ∈ fewer, key ∈ keys) :
    AgreeOn fewer first second :=
  fun key member => agree key (h key member)

end State

open State

variable {first second : State}

namespace Condition

theorem resolve_eq (state : State) (token : String) :
    resolve state token = (state.visible? token).getD (.text token) := by
  rw [resolve, visible?]
  cases state.get? token with
  | none => rfl
  | some value => cases truth : value.isTrue <;> simp [Option.filter, truth]

theorem Draft.read_congr {token : String} (same : first.visible? token = second.visible? token)
    (draft : Draft) : draft.read first token = draft.read second token := by
  simp only [Draft.read, resolve_eq, same]

theorem Draft.foldlM_read_congr {tokens : List String} (agree : AgreeOn tokens first second)
    (draft : Draft) : tokens.foldlM (read first) draft = tokens.foldlM (read second) draft := by
  induction tokens generalizing draft with
  | nil => rfl
  | cons token rest ih =>
      have later : AgreeOn rest first second := agree.mono fun key => List.mem_cons_of_mem token
      rw [List.foldlM_cons, List.foldlM_cons, Draft.read_congr (agree token List.mem_cons_self)]
      exact congrArg _ (funext (ih later))

theorem evaluateTerm_congr {tokens : List String} (agree : AgreeOn tokens first second) :
    evaluateTerm first tokens = evaluateTerm second tokens := by
  unfold evaluateTerm Draft.readAll
  rw [Draft.foldlM_read_congr agree]

/-- The groups between connectives are made of the tokens that were cut. -/
theorem mem_of_mem_splitTerms {tokens group : List String} {token : String}
    (member : group ∈ (splitTerms tokens).1) (inside : token ∈ group) : token ∈ tokens := by
  induction tokens generalizing group with
  | nil =>
      cases List.mem_singleton.1 member
      cases inside
  | cons next rest ih =>
      unfold splitTerms at member
      dsimp only at member
      split at member
      · rcases List.mem_cons.1 member with rfl | later
        · cases inside
        · exact List.mem_cons_of_mem next (ih later inside)
      · cases groups : (splitTerms rest).1 with
        | nil =>
            rw [groups] at member
            cases member
        | cons head others =>
            rw [groups] at ih member
            rcases List.mem_cons.1 member with rfl | later
            · rcases List.mem_cons.1 inside with rfl | inHead
              · exact List.mem_cons_self
              · exact List.mem_cons_of_mem next (ih List.mem_cons_self inHead)
            · exact List.mem_cons_of_mem next (ih (List.mem_cons_of_mem head later) inside)

theorem mapM_evaluateTerm_congr {groups : List (List String)}
    (agree : ∀ group ∈ groups, AgreeOn group first second) :
    groups.mapM (evaluateTerm first) = groups.mapM (evaluateTerm second) := by
  induction groups with
  | nil => rfl
  | cons group rest ih =>
      have later := ih fun other member => agree other (List.mem_cons_of_mem group member)
      rw [List.mapM_cons, List.mapM_cons, evaluateTerm_congr (agree group List.mem_cons_self), later]

theorem evaluateTokens_congr {tokens : List String} (agree : AgreeOn tokens first second) :
    evaluateTokens first tokens = evaluateTokens second tokens := by
  unfold evaluateTokens
  dsimp only
  rw [mapM_evaluateTerm_congr fun group member =>
    agree.mono fun token inside => mem_of_mem_splitTerms member inside]

end Condition

namespace Script

theorem conditionalTurn_congr {params : List String} (agree : AgreeOn params first second) :
    conditionalTurn first params = conditionalTurn second params := by
  unfold conditionalTurn
  dsimp only
  rw [Condition.evaluateTokens_congr (agree.mono fun token => mem_of_mem_condition)]

theorem Line.turn_congr {line : Line} (agree : AgreeOn line.tokens first second) :
    line.turn first = line.turn second := by
  unfold Line.turn
  split
  · rename_i type token rest tokens
    have params : AgreeOn (token :: rest) first second :=
      agree.mono fun key member => tokens ▸ List.mem_cons_of_mem type member
    rw [conditionalTurn_congr params]
  · rfl

theorem descend_congr (context : Context) {line : Line} (agree : AgreeOn line.tokens first second) :
    descend context first line = descend context second line := by
  induction context, line using descend_induction first with
  | step context line ih =>
      rw [descend_eq, descend_eq, ← Line.turn_congr agree]
      cases turn : line.turn first with
      | fail failure => rfl
      | skip => rfl
      | simple instruction params => rfl
      | enter branch =>
          cases nested : context.nested with
          | error failure => rfl
          | ok inner =>
              dsimp only
              split
              · rfl
              · rename_i filled
                exact ih branch inner turn nested filled
                  (agree.mono fun token => Line.mem_of_turn_enter turn)

theorem operandValue?_congr {token : String} (same : first.visible? token = second.visible? token) :
    operandValue? first token = operandValue? second token := by
  unfold operandValue?
  cases Value.integerLiteral? token with
  | none => exact same
  | some value => rfl

theorem calculate_congr {left right : String} (operation : Number.Operation)
    (here : first.visible? left = second.visible? left)
    (there : first.visible? right = second.visible? right) :
    calculate first operation left right = calculate second operation left right := by
  unfold calculate operandNumber
  rw [operandValue?_congr here, operandValue?_congr there]

theorem Action.written_congr {σ : Type} [Dice.Source σ] {action : Action}
    (agree : AgreeOn action.params first second) (source : σ) :
    action.written first source = action.written second source := by
  cases action with
  | goto destination => rfl
  | set key content => rfl
  | copy origin key =>
      have same : (first.get? origin).filter Value.isTrue = (second.get? origin).filter Value.isTrue :=
        agree origin List.mem_cons_self
      unfold Action.written accept
      dsimp only
      rw [same]
  | roll size key => rfl
  | arithmetic operation left right =>
      have here := agree left List.mem_cons_self
      have there := agree right (List.mem_cons_of_mem left List.mem_cons_self)
      unfold Action.written
      dsimp only
      rw [calculate_congr operation here there]

end Script

end NarrativeScript
