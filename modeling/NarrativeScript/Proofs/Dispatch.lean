import NarrativeScript.Dice.Prepared
import NarrativeScript.Proofs.Authored

/-!
# What one statement can fail for

The parameters of a statement may be any texts, and a branch may hold blanks and
semicolons that cut it anew. Whatever they are, a statement that fails does so
for what it says or for an operand that is too large: once its checks are passed
no parameter is missing, no branch is refused as an empty statement, and two
operands that are accepted have a result. The operands that are too large are
those of arithmetic, in the statement itself or in a branch of it.
-/

namespace NarrativeScript.Script

open NarrativeScript.Text

theorem Instruction.ofType_word (instruction : Instruction) :
    Instruction.ofType instruction.word = .ok instruction := by
  rw [Instruction.ofType, Instruction.ofWord?_word]

theorem Action.instruction_ne_conditional (action : Action) : action.instruction ≠ .conditional := by
  cases action <;> exact Instruction.noConfusion

/-- The parameters of an action pass the checks of its instruction. -/
theorem Action.check_params (action : Action) :
    action.instruction.check action.params = .ok () := by
  cases action <;> rfl

/-- The statement is a conditional that passes its checks, and its condition chooses the branch. -/
structure Chooses (statement : Statement) (state : State) (branch : List String) : Prop where
  conditional : statement.type = Instruction.conditional.word
  checked : Instruction.conditional.check statement.params = .ok ()
  chosen : ∃ result,
    Condition.evaluate state (unwords (Branches.ofParams statement.params).condition) = .ok result ∧
      (Branches.ofParams statement.params).chosen result = some branch

variable {σ : Type} [Dice.Source σ]

theorem perform_of_ne_conditional (enter : String → Session σ → Outcome σ)
    {instruction : Instruction} (simple : instruction ≠ .conditional) (params : List String)
    (session : Session σ) :
    perform enter instruction params session = act instruction params session := by
  cases instruction <;> first | exact absurd rfl simple | rfl

theorem dispatch_action (context : Context) {statement : Statement} {action : Action}
    (type : statement.type = action.instruction.word) (params : statement.params = action.params)
    (session : Session σ) :
    dispatch context statement session =
      session.settle action.key (action.written session.state session.source) := by
  rw [dispatch, execute, type, Instruction.ofType_word]
  dsimp only
  rw [params, action.check_params]
  dsimp only
  rw [perform_of_ne_conditional _ action.instruction_ne_conditional, Action.act_eq_settle]

theorem dispatch_statement (context : Context) (action : Action) (session : Session σ) :
    dispatch context action.statement session =
      session.settle action.key (action.written session.state session.source) :=
  dispatch_action context rfl rfl session

theorem dispatch_calculate (context : Context) {operation : Number.Operation} {left right : String}
    {result : Number} {session : Session σ}
    (computed : calculate session.state operation left right = .ok result) :
    dispatch context (Action.arithmetic operation left right).statement session =
      .done (session.set left (.number result)) := by
  rw [dispatch_statement, Action.written, computed]
  rfl

theorem dispatch_calculate_error (context : Context) {operation : Number.Operation}
    {left right : String} {failure : Failure} {session : Session σ}
    (refused : calculate session.state operation left right = .error failure) :
    dispatch context (Action.arithmetic operation left right).statement session =
      .failed failure session := by
  rw [dispatch_statement, Action.written, refused]
  rfl

theorem dispatch_of_chooses (context : Context) {statement : Statement} {session : Session σ}
    {branch : List String} (h : Chooses statement session.state branch) :
    dispatch context statement session = enter context (unwords branch) session := by
  obtain ⟨result, evaluated, chosen⟩ := h.chosen
  have present : thenToken ∈ statement.params :=
    (Instruction.check_conditional_eq_ok_iff.1 h.checked).1
  rw [dispatch, execute, h.conditional, Instruction.ofType_word]
  dsimp only
  rw [h.checked]
  dsimp only
  rw [perform, performConditional, if_pos present]
  dsimp only
  rw [evaluated]
  dsimp only
  rw [chosen]

/-- A statement is malformed, or chooses no branch, or is an action, or enters a branch. -/
theorem dispatch_cases (context : Context) (statement : Statement) (session : Session σ) :
    (∃ failure, failure.IsMalformed ∧
        dispatch context statement session = .failed failure session) ∨
      dispatch context statement session = .done session ∨
      (∃ action : Action, statement.type = action.instruction.word ∧
        statement.params = action.params) ∨
      ∃ branch, Chooses statement session.state branch := by
  cases typed : Instruction.ofType statement.type with
  | error failure =>
      refine .inl ⟨failure, Instruction.isMalformed_of_ofType typed, ?_⟩
      rw [dispatch, execute, typed]
  | ok instruction =>
      have named := Instruction.word_of_ofType typed
      cases checked : instruction.check statement.params with
      | error failure =>
          refine .inl ⟨failure, Requirement.isMalformed_of_checkAll checked, ?_⟩
          rw [dispatch, execute, typed]
          dsimp only
          rw [checked]
      | ok _ =>
          by_cases choice : instruction = .conditional
          · subst choice
            have present := (Instruction.check_conditional_eq_ok_iff.1 checked).1
            have performed : dispatch context statement session =
                performConditional (enter context) statement.params session := by
              rw [dispatch, execute, typed]
              dsimp only
              rw [checked]
              rfl
            rw [performed, performConditional, if_pos present]
            dsimp only
            cases evaluated : Condition.evaluate session.state
                (unwords (Branches.ofParams statement.params).condition) with
            | error failure => exact .inl ⟨failure, Condition.isMalformed_of_evaluateTokens evaluated, rfl⟩
            | ok result =>
                cases chosen : (Branches.ofParams statement.params).chosen result with
                | none => exact .inr (.inl (by simp only [chosen]))
                | some branch =>
                    exact .inr (.inr (.inr ⟨branch, named.symm, checked, result, evaluated, chosen⟩))
          · obtain ⟨action, instructed, supplied⟩ := Action.exists_of_check choice checked
            exact .inr (.inr (.inl ⟨action, by rw [instructed, named], supplied.symm⟩))

/-! ### What a statement fails for -/

theorem enter_overflow_iff {context : Context} {branch : String} {session : Session σ} :
    (enter context branch session).failure? = some .oversizedInteger ↔
      ∃ inner, context.nested = .ok inner ∧ Overflows inner (some branch) session := by
  unfold enter
  cases nested : context.nested with
  | error failure =>
      constructor
      · intro failed
        cases failed
        cases Context.isAuthored_of_nested nested
      · rintro ⟨inner, impossible, -⟩
        cases impossible
  | ok inner =>
      constructor
      · intro failed
        by_contra bounded
        refine Failure.not_isAuthored_oversizedInteger (isAuthored_of_run (fun large => ?_) failed)
        exact bounded ⟨inner, rfl, large⟩
      · rintro ⟨_, same, large⟩
        cases same
        exact run_overflow large

theorem enter_failure {context : Context} {branch : String} {session : Session σ}
    {failure : Failure} (h : (enter context branch session).failure? = some failure) :
    failure.IsAuthored ∨ failure = .oversizedInteger := by
  unfold enter at h
  cases nested : context.nested with
  | error cause =>
      rw [nested] at h
      cases h
      exact .inl (Context.isAuthored_of_nested nested)
  | ok inner =>
      rw [nested] at h
      by_cases large : Overflows inner (some branch) session
      · exact .inr (Option.some.inj (h.symm.trans (run_overflow large)))
      · exact .inl (isAuthored_of_run large h)

theorem Action.written_overflow_iff {action : Action} {state : State} {source : σ} :
    action.written state source = .error .oversizedInteger ↔ action.Overflows state := by
  rcases action.written_failure state source with ⟨large, failed⟩ | ⟨bounded, causes⟩
  · simp only [large, failed]
  · constructor
    · intro failed
      rcases causes _ failed with impossible | ⟨token, impossible⟩
      · exact impossible.elim
      · cases impossible
    · intro large
      exact absurd large bounded

/-- The statement is arithmetic on an operand that is too large, or a conditional, and its branch
comes to such arithmetic. -/
def StatementOverflows (context : Context) (statement : Statement) (session : Session σ) : Prop :=
  (∃ operation left right, statement.type = (Instruction.arithmetic operation).word ∧
      statement.params = [left, right] ∧ Overflowing session.state left right) ∨
    ∃ branch inner, Chooses statement session.state branch ∧ context.nested = .ok inner ∧
      Overflows inner (some (unwords branch)) session

theorem dispatch_overflow_iff (context : Context) (statement : Statement) (session : Session σ) :
    (dispatch context statement session).failure? = some .oversizedInteger ↔
      StatementOverflows context statement session := by
  constructor
  · intro failed
    rcases dispatch_cases context statement session with
      ⟨failure, malformed, outcome⟩ | outcome | ⟨action, type, params⟩ | ⟨branch, chosen⟩
    · rw [outcome] at failed
      cases failed
      exact malformed.elim
    · rw [outcome] at failed
      cases failed
    · rw [dispatch_action context type params, settle_failure?_eq_some_iff,
        Action.written_overflow_iff] at failed
      cases action with
      | arithmetic operation left right => exact .inl ⟨operation, left, right, type, params, failed⟩
      | _ => exact failed.elim
    · rw [dispatch_of_chooses context chosen, enter_overflow_iff] at failed
      obtain ⟨inner, nested, large⟩ := failed
      exact .inr ⟨branch, inner, chosen, nested, large⟩
  · rintro (⟨operation, left, right, type, params, large⟩ | ⟨branch, inner, chosen, nested, large⟩)
    · have amounts : statement.params = (Action.arithmetic operation left right).params := params
      rw [dispatch_action context type amounts, settle_failure?_eq_some_iff,
        Action.written_overflow_iff]
      exact large
    · rw [dispatch_of_chooses context chosen, enter_overflow_iff]
      exact ⟨inner, nested, large⟩

theorem dispatch_failure {context : Context} {statement : Statement} {session : Session σ}
    {failure : Failure} (h : (dispatch context statement session).failure? = some failure) :
    failure.IsAuthored ∨ failure = .oversizedInteger := by
  rcases dispatch_cases context statement session with
    ⟨cause, malformed, outcome⟩ | outcome | ⟨action, type, params⟩ | ⟨branch, chosen⟩
  · rw [outcome] at h
    cases h
    exact .inl malformed.isAuthored
  · rw [outcome] at h
    cases h
  · rw [dispatch_action context type params, settle_failure?_eq_some_iff] at h
    by_cases large : action.Overflows session.state
    · exact .inr (Except.error.inj (h.symm.trans (Action.written_overflow_iff.2 large)))
    · exact .inl (Action.isAuthored_of_written large h)
  · rw [dispatch_of_chooses context chosen] at h
    exact enter_failure h

/-- Two operands that are accepted have a result, and the statement stores it. -/
theorem dispatch_arithmetic (context : Context) {statement : Statement} {session : Session σ}
    {operation : Number.Operation} {left right : String} {first second : Number}
    (type : statement.type = (Instruction.arithmetic operation).word)
    (params : statement.params = [left, right])
    (here : operandNumber session.state left = .ok first)
    (there : operandNumber session.state right = .ok second) :
    ∃ result, operation.result? first second = some result ∧
      dispatch context statement session = .done (session.set left (.number result)) := by
  obtain ⟨result, defined⟩ := exists_result?_of_operandNumber operation here there
  have computed : calculate session.state operation left right = .ok result :=
    calculate_eq_ok_iff.2 ⟨first, second, here, there, defined⟩
  have amounts : statement.params = (Action.arithmetic operation left right).params := params
  refine ⟨result, defined, ?_⟩
  rw [dispatch_action context type amounts, Action.written, computed]
  rfl

/-- Whatever its type and parameters are, a statement that fails does so for what it says or for an
operand that is too large, and for that exactly if it is arithmetic on such an operand or enters a
branch that comes to it. Operands that are accepted never make arithmetic fail. -/
theorem statement_fails_for_its_text_or_an_oversized_operand (context : Context)
    (statement : Statement) (session : Session σ) :
    (∀ failure, (dispatch context statement session).failure? = some failure →
      failure.IsAuthored ∨ failure = .oversizedInteger) ∧
    ((dispatch context statement session).failure? = some .oversizedInteger ↔
      StatementOverflows context statement session) ∧
    ∀ operation left right, statement.type = (Instruction.arithmetic operation).word →
      statement.params = [left, right] →
        ((dispatch context statement session).failure? = some .oversizedInteger ↔
          Oversized session.state left ∨ Usable session.state left ∧ Oversized session.state right) ∧
        ∀ first second, operandNumber session.state left = .ok first →
          operandNumber session.state right = .ok second →
            ∃ result, operation.result? first second = some result ∧
              dispatch context statement session = .done (session.set left (.number result)) := by
  refine ⟨fun failure => dispatch_failure, dispatch_overflow_iff context statement session, ?_⟩
  intro operation left right type params
  refine ⟨?_, fun first second here there => dispatch_arithmetic context type params here there⟩
  have amounts : statement.params = (Action.arithmetic operation left right).params := params
  rw [dispatch_action context type amounts, settle_failure?_eq_some_iff, Action.written_overflow_iff]
  rfl

/-- A die without a key is a fault of the script. A branch that is cut at a semicolon of its own
writes a key and then meets a number at the bound; one below the bound is added to a half. -/
theorem branch_with_semicolon_and_sum_below_bound :
    let state : State := .ofList [("hp", some (.integer 3)),
      ("big", some (.integer Number.overflowBound)),
      ("edge", some (.integer (Number.overflowBound - 1))),
      ("half", some (.number (.real (.ofBits 0x3FE0000000000000))))]
    let session : Session Dice.Prepared := ⟨state, ⟨[]⟩⟩
    let context : Context := ⟨0, 1⟩
    let die : Statement := ⟨"ROLL", ["6"], by decide, by decide⟩
    let choice : Statement := ⟨"IF", ["hp IS", "hp", "THEN", "SET a 1;ADD big 1"], by decide, by decide⟩
    let sum : Statement := ⟨"ADD", ["edge", "half"], by decide, by decide⟩
    (∃ failure, (dispatch context die session).failure? = some failure ∧
        (failure.IsAuthored ∨ failure = .oversizedInteger)) ∧
      ((dispatch context choice session).failure? = some .oversizedInteger ∧
        StatementOverflows context choice session) ∧
      sum.type = (Instruction.arithmetic .add).word ∧ sum.params = ["edge", "half"] ∧
      ∃ first second, operandNumber state "edge" = .ok first ∧ operandNumber state "half" = .ok second ∧
        ∃ result, Number.Operation.add.result? first second = some result ∧
          dispatch context sum session = .done (session.set "edge" (.number result)) := by
  intro state session context die choice sum
  have short : (dispatch context die session).failure? =
      some (.format (.wrongArity "ROLL" 2 1) (.words ["6"])) := by decide +kernel
  have failed : (dispatch context choice session).failure? = some .oversizedInteger := by
    decide +kernel
  have edge : operandNumber state "edge" = .ok (.integer (Number.overflowBound - 1)) := by
    decide +kernel
  have half : operandNumber state "half" = .ok (.real (.ofBits 0x3FE0000000000000)) := by
    decide +kernel
  obtain ⟨causes, -, -⟩ := statement_fails_for_its_text_or_an_oversized_operand context die session
  obtain ⟨-, overflow, -⟩ := statement_fails_for_its_text_or_an_oversized_operand context choice session
  obtain ⟨-, -, arithmetic⟩ := statement_fails_for_its_text_or_an_oversized_operand context sum session
  exact ⟨⟨_, short, causes _ short⟩, ⟨failed, overflow.1 failed⟩, rfl, rfl, _, _, edge, half,
    (arithmetic .add "edge" "half" rfl rfl).2 _ _ edge half⟩

end NarrativeScript.Script
