import NarrativeScript.Dice.Prepared
import NarrativeScript.Proofs.Authored

/-!
# The limit on nesting

A limit only says where a run has to stop. Under a lower limit a run does what it
does under a higher one up to the first statement that would nest too deep, and
that statement changes nothing. Depth and limit count only through the levels
that are left between them: moved together they show in a failure of depth and
nowhere else.
-/

namespace NarrativeScript.Failure

/-- The failure as it reads with so many levels more around the script. -/
def deepened (levels : Int) : Failure → Failure
  | .depthExceeded depth limit => .depthExceeded (depth + levels) (limit + levels)
  | failure => failure

theorem IsMalformed.deepened_eq {failure : Failure} (h : failure.IsMalformed) (levels : Int) :
    failure.deepened levels = failure := by
  cases failure with
  | depthExceeded depth limit => exact h.elim
  | _ => rfl

end NarrativeScript.Failure

namespace NarrativeScript.Script

variable {σ : Type}

/-- A line comes down to the same under a lower limit, or it is refused one level beyond it. -/
theorem descend_lower {state : State} {higher : Int} (context : Context) (line : Line)
    (within : context.depth ≤ context.limit) (lower : context.limit ≤ higher) :
    descend context state line = descend { context with limit := higher } state line ∨
      descend context state line = .error (.depthExceeded (context.limit + 1) context.limit) := by
  induction context, line using descend_induction state with
  | step context line ih =>
      rw [descend_eq, descend_eq { context with limit := higher }]
      cases turn : line.turn state with
      | fail failure => exact .inl rfl
      | skip => exact .inl rfl
      | simple instruction params => exact .inl rfl
      | enter branch =>
          -- Only here is the limit looked at: below it both contexts go on, at it the lower refuses.
          rcases Int.lt_or_eq_of_le within with shallow | deepest
          · have nested : context.nested = .ok context.inner :=
              Context.nested_eq_ok_iff.2 ⟨shallow, rfl⟩
            have raised : Context.nested { context with limit := higher } =
                .ok { context.inner with limit := higher } :=
              Context.nested_eq_ok_iff.2 ⟨Int.lt_of_lt_of_le shallow lower, rfl⟩
            simp only [nested, raised]
            by_cases empty : branch = []
            · rw [if_pos empty, if_pos empty]
              exact .inl rfl
            · rw [if_neg empty, if_neg empty]
              exact ih branch context.inner turn nested empty shallow lower
          · have refused : context.nested = .error context.tooDeep :=
              Context.nested_eq_error_iff.2 ⟨by omega, rfl⟩
            rw [refused, Context.tooDeep, deepest]
            exact .inr rfl

section Lower

variable [Dice.Source σ]

theorem runPiece_lower (context : Context) {higher : Int} (within : context.depth ≤ context.limit)
    (lower : context.limit ≤ higher) {piece : String} (single : ';' ∉ piece.toList)
    (session : Session σ) :
    runPiece (enter context) piece session =
        runPiece (enter { context with limit := higher }) piece session ∨
      runPiece (enter context) piece session =
        .failed (.depthExceeded (context.limit + 1) context.limit) session := by
  rw [runPiece_eq_runLine single, runPiece_eq_runLine single, runLine_eq_settle, runLine_eq_settle]
  rcases descend_lower context (.ofPiece piece) within lower with same | refused
  · rw [same]
    exact .inl rfl
  · rw [refused]
    exact .inr rfl

/-- The pieces before one that nests too deep run alike under both limits. -/
theorem runPieces_lower (context : Context) {higher : Int} (within : context.depth ≤ context.limit)
    (lower : context.limit ≤ higher) {texts : List String}
    (single : ∀ piece ∈ texts, ';' ∉ piece.toList) (session : Session σ) :
    runPieces (enter context) texts session =
        runPieces (enter { context with limit := higher }) texts session ∨
      ∃ before piece after reached, texts = before ++ piece :: after ∧
        runPieces (enter context) before session = .done reached ∧
        runPieces (enter { context with limit := higher }) before session = .done reached ∧
        runPiece (enter context) piece reached =
          .failed (.depthExceeded (context.limit + 1) context.limit) reached := by
  induction texts generalizing session with
  | nil => exact .inl rfl
  | cons piece rest ih =>
      rcases runPiece_lower context within lower (single piece List.mem_cons_self) session with
        same | refused
      · rw [runPieces, runPieces, same]
        cases outcome : (runPiece (enter { context with limit := higher }) piece session).failure? with
        | some failure =>
            rw [Outcome.andThen_of_some outcome, Outcome.andThen_of_some outcome]
            exact .inl rfl
        | none =>
            have succeeded := Outcome.eq_done outcome
            rw [succeeded, Outcome.andThen_done, Outcome.andThen_done]
            rcases ih (fun other member => single other (List.mem_cons_of_mem piece member)) _ with
              alike | ⟨before, deep, after, reached, rfl, here, there, refused⟩
            · exact .inl alike
            · refine .inr ⟨piece :: before, deep, after, reached, rfl, ?_, ?_, refused⟩
              · rw [runPieces, same, succeeded, Outcome.andThen_done, here]
              · rw [runPieces, succeeded, Outcome.andThen_done, there]
      · exact .inr ⟨[], piece, rest, session, rfl, rfl, rfl, refused⟩

end Lower

/-! ### Depth and limit moved together -/

def Context.deepened (levels : Int) (context : Context) : Context :=
  ⟨context.depth + levels, context.limit + levels⟩

theorem Context.nested_deepened (levels : Int) (context : Context) :
    (context.deepened levels).nested =
      (context.nested.map (Context.deepened levels)).mapError (Failure.deepened levels) := by
  have beyond : (context.deepened levels).limit < (context.deepened levels).depth + 1 ↔
      context.limit < context.depth + 1 := by
    show context.limit + levels < context.depth + levels + 1 ↔ _
    omega
  have above : (context.deepened levels).depth + 1 = context.depth + 1 + levels := by
    show context.depth + levels + 1 = _
    omega
  unfold Context.nested
  by_cases full : context.limit < context.depth + 1
  · rw [if_pos full, if_pos (beyond.2 full), tooDeep, above]
    rfl
  · rw [if_neg full, if_neg (mt beyond.1 full), inner, above]
    rfl

theorem descend_deepened (levels : Int) (context : Context) (state : State) (line : Line) :
    descend (context.deepened levels) state line =
      (descend context state line).mapError (Failure.deepened levels) := by
  induction context, line using descend_induction state with
  | step context line ih =>
      rw [descend_eq, descend_eq context, Context.nested_deepened]
      cases turn : line.turn state with
      | fail failure =>
          show Except.error failure = .error (failure.deepened levels)
          rw [(Line.isMalformed_of_turn turn).deepened_eq]
      | skip => rfl
      | simple instruction params => rfl
      | enter branch =>
          cases nested : context.nested with
          | error failure => rfl
          | ok inner =>
              show (if branch = [] then _ else _) = Except.mapError _ (if branch = [] then _ else _)
              by_cases empty : branch = []
              · rw [if_pos empty, if_pos empty]
                rfl
              · rw [if_neg empty, if_neg empty]
                exact ih branch inner turn nested empty

namespace Outcome

def deepened (levels : Int) (outcome : Outcome σ) : Outcome σ :=
  ⟨outcome.failure?.map (Failure.deepened levels), outcome.session⟩

theorem deepened_andThen (levels : Int) (outcome : Outcome σ) (next : Session σ → Outcome σ) :
    (outcome.andThen next).deepened levels =
      (outcome.deepened levels).andThen fun session => (next session).deepened levels := by
  obtain ⟨failure, session⟩ := outcome
  cases failure <;> rfl

theorem deepened_settle (levels : Int) (session : Session σ) (key : String)
    (change : Except Failure (Value × σ)) :
    (session.settle key change).deepened levels =
      session.settle key (change.mapError (Failure.deepened levels)) := by
  cases change <;> rfl

end Outcome

variable [Dice.Source σ]

theorem Action.written_deepened (levels : Int) (action : Action) (state : State) (source : σ) :
    (action.written state source).mapError (Failure.deepened levels) =
      action.written state source := by
  cases written : action.written state source with
  | ok change => rfl
  | error failure =>
      show Except.error (failure.deepened levels) = .error failure
      rcases action.written_failure state source with ⟨-, oversized⟩ | ⟨-, causes⟩
      · cases written.symm.trans oversized
        rfl
      · rcases causes failure written with malformed | ⟨token, rfl⟩
        · rw [malformed.deepened_eq]
        · rfl

theorem runLine_deepened (levels : Int) (context : Context) (line : Line) (session : Session σ) :
    runLine (context.deepened levels) line session =
      (runLine context line session).deepened levels := by
  rw [runLine_eq_settle, runLine_eq_settle, descend_deepened]
  cases descend context session.state line with
  | error failure => rfl
  | ok target =>
      cases target with
      | none => rfl
      | some action =>
          show _ = Outcome.deepened levels (session.settle _ _)
          rw [Outcome.deepened_settle, Action.written_deepened]
          rfl

theorem runLines_deepened (levels : Int) (context : Context) (lines : List Line)
    (session : Session σ) :
    runLines (context.deepened levels) lines session =
      (runLines context lines session).deepened levels := by
  induction lines generalizing session with
  | nil => rfl
  | cons line rest ih =>
      rw [runLines, runLines, Outcome.deepened_andThen, runLine_deepened]
      exact congrArg _ (funext ih)

/-- A run under a lower limit is the same run, or it is cut short: it comes with the other run to a
statement that nests one level beyond the limit, and leaves what it has there. Levels added to
both depth and limit are added to the failure of a run that nests too deep, and to nothing
else. -/
theorem limit_only_cuts_short :
    (∀ (depth limit higher : Int) (script : Option String) (session : Session σ),
      depth ≤ limit → limit ≤ higher →
        run ⟨depth, limit⟩ script session = run ⟨depth, higher⟩ script session ∨
          ∃ before piece after reached, pieces script = before ++ piece :: after ∧
            runPieces (enter ⟨depth, limit⟩) before session = .done reached ∧
            runPieces (enter ⟨depth, higher⟩) before session = .done reached ∧
            runPiece (enter ⟨depth, limit⟩) piece reached =
              .failed (.depthExceeded (limit + 1) limit) reached ∧
            run ⟨depth, limit⟩ script session =
              .failed (.depthExceeded (limit + 1) limit) reached) ∧
    ∀ (depth limit levels : Int) (script : Option String) (session : Session σ),
      run ⟨depth + levels, limit + levels⟩ script session =
        (run ⟨depth, limit⟩ script session).deepened levels := by
  constructor
  · intro depth limit higher script session within lower
    rw [run_eq, run_eq]
    rcases runPieces_lower ⟨depth, limit⟩ within lower
        (fun piece member => not_mem_of_mem_pieces member) session with
      same | ⟨before, piece, after, reached, cut, here, there, refused⟩
    · exact .inl same
    · refine .inr ⟨before, piece, after, reached, cut, here, there, refused, ?_⟩
      rw [cut, runPieces_append, here, Outcome.andThen_done, runPieces, refused,
        Outcome.andThen_failed]
  · intro depth limit levels script session
    rw [run_eq_runLines_ofPiece, run_eq_runLines_ofPiece]
    exact runLines_deepened levels ⟨depth, limit⟩ _ session

/-- The second statement nests two levels, and which branch it takes depends on the roll before
it. Under the limit of one level the run ends there, with the roll made. -/
theorem nested_roll_under_two_limits :
    let script := some "ROLL 6 a;IF a IS 5 THEN IF a > 4 THEN ROLL 6 b;SET c 2"
    let session : Session Dice.Prepared := ⟨.empty, ⟨[4, 1]⟩⟩
    (0 : Int) ≤ 1 ∧ (1 : Int) ≤ 2 ∧ (run ⟨0, 2⟩ script session).failure? = none ∧
      (∃ before piece after reached, pieces script = before ++ piece :: after ∧
        runPieces (enter ⟨0, 1⟩) before session = .done reached ∧
        runPieces (enter ⟨0, 2⟩) before session = .done reached ∧
        runPiece (enter ⟨0, 1⟩) piece reached = .failed (.depthExceeded 2 1) reached ∧
        run ⟨0, 1⟩ script session = .failed (.depthExceeded 2 1) reached) ∧
      run ⟨3, 4⟩ script session = (run ⟨0, 1⟩ script session).deepened 3 := by
  intro script session
  have free : (run ⟨0, 2⟩ script session).failure? = none := by decide +kernel
  have refused : (run ⟨0, 1⟩ script session).failure? = some (.depthExceeded 2 1) := by
    decide +kernel
  refine ⟨by decide, by decide, free, ?_, ?_⟩
  · rcases limit_only_cuts_short.1 0 1 2 script session (by decide) (by decide) with same | cut
    · rw [same, free] at refused
      cases refused
    · exact cut
  · exact limit_only_cuts_short.2 0 1 3 script session

end NarrativeScript.Script
