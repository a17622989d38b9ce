import NarrativeScript.Proofs.Action

/-!
# What a line comes down to

A line follows its conditionals down to at most one action, whatever the
nesting. Which action that is depends on the state alone, and nothing changes on
the way; so a line fails and changes nothing, does nothing, or writes one key.
-/

namespace NarrativeScript.Script

variable {σ : Type}

/-- Follows the conditionals of a line to the action that is carried out in the end, if there is
one. No state is changed on the way. -/
def descend (context : Context) (state : State) (line : Line) : Except Failure (Option Action) :=
  match _turn : line.turn state with
  | .fail failure => .error failure
  | .skip => .ok none
  | .simple instruction params => .ok (Action.read? instruction params)
  | .enter branch =>
      match context.nested with
      | .error failure => .error failure
      | .ok inner => if branch = [] then .ok none else descend inner state (.ofBranch branch)
termination_by line.tokens.length
decreasing_by exact Line.length_of_turn_enter _turn

theorem descend_eq (context : Context) (state : State) (line : Line) :
    descend context state line =
      match line.turn state with
      | .fail failure => .error failure
      | .skip => .ok none
      | .simple instruction params => .ok (Action.read? instruction params)
      | .enter branch =>
          match context.nested with
          | .error failure => .error failure
          | .ok inner => if branch = [] then .ok none else descend inner state (.ofBranch branch) := by
  rw [descend]
  split <;> simp [*]

theorem descend_of_turn_simple {context : Context} {state : State} {line : Line} {action : Action}
    (turn : line.turn state = .simple action.instruction action.params) :
    descend context state line = .ok (some action) := by
  rw [descend_eq, turn]
  exact congrArg Except.ok (Action.read?_instruction_params action)

theorem descend_of_turn_enter {context inner : Context} {state : State} {line : Line}
    {branch : List String} (turn : line.turn state = .enter branch)
    (nested : context.nested = .ok inner) (filled : branch ≠ []) :
    descend context state line = descend inner state (.ofBranch branch) := by
  rw [descend_eq, turn]
  dsimp only
  rw [nested]
  exact if_neg filled

theorem Instruction.word_of_ofType {type : String} {instruction : Instruction}
    (h : Instruction.ofType type = .ok instruction) : instruction.word = type := by
  unfold Instruction.ofType at h
  split at h
  · rename_i found
    cases h
    exact Instruction.ofWord?_eq_some_iff.1 found
  · cases h

theorem conditionalTurn_ne_simple (state : State) (tokens : List String)
    (instruction : Instruction) (params : List String) :
    conditionalTurn state tokens ≠ .simple instruction params := by
  unfold conditionalTurn
  dsimp only
  split
  · exact Turn.noConfusion
  · split <;> exact Turn.noConfusion

theorem Line.turn_simple {state : State} {line : Line} {instruction : Instruction}
    {params : List String} (h : line.turn state = .simple instruction params) :
    ∃ action : Action, action.instruction = instruction ∧ action.params = params ∧
      line.tokens = instruction.word :: params := by
  rcases line.turn_cases state with ⟨failure, failed⟩ |
    ⟨type, given, typed, tokens, named, checked, ⟨-, choice⟩ | ⟨simple, acted⟩⟩
  · rw [failed] at h
    cases h
  · exact absurd (choice.symm.trans h) (conditionalTurn_ne_simple _ _ _ _)
  · rw [acted] at h
    cases h
    obtain ⟨action, instructed, supplied⟩ := Action.exists_of_check simple checked
    exact ⟨action, instructed, supplied, by rw [tokens, Instruction.word_of_ofType named]⟩

/-- A property of a line that passes from a statement to each branch it enters is shown by what
holds where the line is not entered any further. -/
theorem descend_induction (state : State) {motive : Context → Line → Prop}
    (step : ∀ context line,
      (∀ branch inner, line.turn state = .enter branch → context.nested = .ok inner →
        branch ≠ [] → motive inner (.ofBranch branch)) → motive context line)
    (context : Context) (line : Line) : motive context line := by
  induction size : line.tokens.length using Nat.strongRecOn generalizing context line with
  | ind size ih =>
      subst size
      apply step
      intro branch inner turn nested filled
      exact ih _ (Line.length_of_turn_enter turn) inner (.ofBranch branch) rfl

/-- The instruction that a line comes down to is spelled by tokens of the line. -/
theorem mem_of_descend {context : Context} {state : State} {line : Line} {action : Action}
    (h : descend context state line = .ok (some action)) :
    action.instruction.word ∈ line.tokens ∧ ∀ param ∈ action.params, param ∈ line.tokens := by
  induction context, line using descend_induction state with
  | step context line ih =>
      rw [descend_eq] at h
      cases turn : line.turn state with
      | fail failure =>
          rw [turn] at h
          cases h
      | skip =>
          rw [turn] at h
          cases h
      | simple instruction params =>
          obtain ⟨other, rfl, rfl, tokens⟩ := Line.turn_simple turn
          simp only [turn, Action.read?_instruction_params, Except.ok.injEq, Option.some.injEq] at h
          subst h
          rw [tokens]
          exact ⟨List.mem_cons_self, fun param member => List.mem_cons_of_mem _ member⟩
      | enter branch =>
          cases nested : context.nested with
          | error failure =>
              rw [turn, nested] at h
              cases h
          | ok inner =>
              simp only [turn, nested] at h
              split at h
              · cases h
              · rename_i filled
                obtain ⟨word, params⟩ := ih branch inner turn nested filled h
                exact ⟨Line.mem_of_turn_enter turn word,
                  fun param member => Line.mem_of_turn_enter turn (params param member)⟩

/-- A descent fails where a line on the way fails or a branch is refused. The lines on the way are
made of tokens of the first. -/
theorem descend_error {context : Context} {state : State} {line : Line} {failure : Failure}
    (h : descend context state line = .error failure) :
    (∃ deeper : Line, (∀ token ∈ deeper.tokens, token ∈ line.tokens) ∧
        deeper.turn state = .fail failure) ∨
      ∃ inner : Context, inner.nested = .error failure := by
  induction context, line using descend_induction state with
  | step context line ih =>
      rw [descend_eq] at h
      cases turn : line.turn state with
      | fail cause =>
          rw [turn] at h
          cases h
          exact .inl ⟨line, fun token member => member, turn⟩
      | skip =>
          rw [turn] at h
          cases h
      | simple instruction params =>
          rw [turn] at h
          cases h
      | enter branch =>
          cases nested : context.nested with
          | error cause =>
              rw [turn, nested] at h
              cases h
              exact .inr ⟨context, nested⟩
          | ok inner =>
              simp only [turn, nested] at h
              split at h
              · cases h
              · rename_i filled
                rcases ih branch inner turn nested filled h with ⟨deeper, within, failed⟩ | refused
                · exact .inl ⟨deeper, fun token member =>
                    Line.mem_of_turn_enter turn (within token member), failed⟩
                · exact .inr refused

variable [Dice.Source σ]

/-- A line is its descent and then at most one write. -/
theorem runLine_eq_settle (context : Context) (line : Line) (session : Session σ) :
    runLine context line session =
      match descend context session.state line with
      | .error failure => .failed failure session
      | .ok none => .done session
      | .ok (some action) =>
          session.settle action.key (action.written session.state session.source) := by
  induction context, line using descend_induction session.state with
  | step context line ih =>
      rw [runLine_eq, descend_eq]
      cases turn : line.turn session.state with
      | fail failure => rfl
      | skip => rfl
      | simple instruction params =>
          obtain ⟨action, rfl, rfl, -⟩ := Line.turn_simple turn
          simp only [Turn.carryOut, Action.read?_instruction_params, Action.act_eq_settle]
      | enter branch =>
          simp only [Turn.carryOut, enterTokens]
          cases nested : context.nested with
          | error failure => rfl
          | ok inner =>
              dsimp only
              by_cases empty : branch = []
              · rw [if_pos empty, if_pos empty]
              · rw [if_neg empty, if_neg empty]
                exact ih branch inner turn nested empty

/-- All that a line can do: fail, do nothing, or write one key. Only the last takes a die. -/
theorem runLine_cases (context : Context) (line : Line) (session : Session σ) :
    (∃ failure, runLine context line session = .failed failure session) ∨
      runLine context line session = .done session ∨
      ∃ action value source, descend context session.state line = .ok (some action) ∧
        action.written session.state session.source = .ok (value, source) ∧
        runLine context line session = .done ⟨session.state.set action.key value, source⟩ := by
  rw [runLine_eq_settle]
  cases descend context session.state line with
  | error failure => exact .inl ⟨failure, rfl⟩
  | ok target =>
      cases target with
      | none => exact .inr (.inl rfl)
      | some action =>
          dsimp only
          cases written : action.written session.state session.source with
          | error failure => exact .inl ⟨failure, rfl⟩
          | ok result =>
              exact .inr (.inr ⟨action, result.1, result.2, rfl, written, rfl⟩)

/-- A line that fails does so on the way to its action or in it. -/
theorem runLine_failure {context : Context} {line : Line} {session : Session σ} {failure : Failure}
    (h : (runLine context line session).failure? = some failure) :
    descend context session.state line = .error failure ∨
      ∃ action, descend context session.state line = .ok (some action) ∧
        action.written session.state session.source = .error failure := by
  rw [runLine_eq_settle] at h
  cases target : descend context session.state line with
  | error cause =>
      rw [target] at h
      cases h
      exact .inl rfl
  | ok found =>
      rw [target] at h
      cases found with
      | none => cases h
      | some action => exact .inr ⟨action, rfl, settle_failure?_eq_some_iff.1 h⟩

/-- What is kept by the write that a line may come to is kept by the line, failing or not. -/
theorem runLine_preserves {motive : State → Prop} {context : Context} {line : Line}
    {session : Session σ}
    (write : ∀ action value source, descend context session.state line = .ok (some action) →
      action.written session.state session.source = .ok (value, source) →
        motive session.state → motive (session.state.set action.key value))
    (before : motive session.state) : motive (runLine context line session).session.state := by
  rcases runLine_cases context line session with
    ⟨failure, failed⟩ | done | ⟨action, value, source, target, written, done⟩
  · rw [failed]
    exact before
  · rw [done]
    exact before
  · rw [done]
    exact write action value source target written before

/-- What every write of the lines keeps is kept by a run of them, however far it comes. -/
theorem runLines_preserves {motive : State → Prop} {context : Context} {lines : List Line}
    (write : ∀ line ∈ lines, ∀ (state : State) (source : σ) action value rest,
      descend context state line = .ok (some action) →
        action.written state source = .ok (value, rest) →
          motive state → motive (state.set action.key value))
    {session : Session σ} (before : motive session.state) :
    motive (runLines context lines session).session.state := by
  induction lines generalizing session with
  | nil => exact before
  | cons line rest ih =>
      have here : motive (runLine context line session).session.state :=
        runLine_preserves (write line List.mem_cons_self _ _) before
      rw [runLines]
      cases stopped : (runLine context line session).failure? with
      | some failure =>
          rw [Outcome.andThen_of_some stopped]
          exact here
      | none =>
          rw [Outcome.eq_done stopped, Outcome.andThen_done]
          exact ih (fun other member => write other (List.mem_cons_of_mem line member)) here

end NarrativeScript.Script
