import NarrativeScript.Dice.Prepared
import NarrativeScript.Proofs.Authored

/-!
# The calls of a run

A conditional runs the branch that it chooses as a text of its own, one level
deeper. The branch holds fewer THEN tokens than the conditional, whichever branch
it is: its own THEN stands before both. So the THEN tokens of a statement bound
how many runs it nests, and a script whose statements have no more of them than
there are levels never meets the limit. A run that notes each such call in a log
shows the calls and is the same run.
-/

namespace NarrativeScript.Script

open NarrativeScript.Text

/-- How many of the words of a text are THEN. -/
def thenCount (text : String) : Nat :=
  (words text).count thenToken

theorem count_afterFirst_lt {mark : String} {tokens : List String} (member : mark ∈ tokens) :
    (afterFirst mark tokens).count mark < tokens.count mark := by
  have cut := congrArg (List.count mark) (beforeFirst_append_afterFirst member)
  rw [List.count_append, List.count_cons_self] at cut
  omega

theorem count_thenBranch_lt {params : List String} (present : thenToken ∈ params) :
    (afterFirst thenToken (beforeFirst elseToken params)).count thenToken <
      params.count thenToken := by
  have fewer : (beforeFirst elseToken params).count thenToken ≤ params.count thenToken :=
    (List.takeWhile_sublist _).count_le thenToken
  -- An ELSE may stand before every THEN here; then nothing of the branch is left.
  by_cases inside : thenToken ∈ beforeFirst elseToken params
  · exact Nat.lt_of_lt_of_le (count_afterFirst_lt inside) fewer
  · have absent : thenToken ∉ afterFirst thenToken (beforeFirst elseToken params) :=
      fun member => inside (mem_of_mem_afterFirst member)
    rw [List.count_eq_zero_of_not_mem absent]
    exact List.count_pos_iff.2 present

/-- The token that occurs first stands before the first occurrence of the other. -/
theorem mem_beforeFirst_of_idxOf_le {first later : String} (apart : first ≠ later)
    {tokens : List String} (member : first ∈ tokens)
    (ordered : tokens.idxOf first ≤ tokens.idxOf later) : first ∈ beforeFirst later tokens := by
  induction tokens with
  | nil => cases member
  | cons token rest ih =>
      by_cases here : token = first
      · subst here
        rw [beforeFirst, List.takeWhile_cons_of_pos (by simpa using apart)]
        exact List.mem_cons_self
      · have further : token ≠ later := by
          rintro rfl
          rw [List.idxOf_cons_self, List.idxOf_cons_ne _ here] at ordered
          omega
        rw [List.idxOf_cons_ne _ here, List.idxOf_cons_ne _ further] at ordered
        rw [beforeFirst, List.takeWhile_cons_of_pos (by simpa using further)]
        have inside : first ∈ rest := (List.mem_cons.1 member).resolve_left (Ne.symm here)
        exact List.mem_cons_of_mem token (ih inside (Nat.le_of_succ_le_succ ordered))

theorem count_elseBranch_lt {params : List String} (present : thenToken ∈ params)
    (otherwise : elseToken ∈ params)
    (ordered : params.idxOf thenToken ≤ params.idxOf elseToken) :
    (afterFirst elseToken params).count thenToken < params.count thenToken := by
  have before : thenToken ∈ beforeFirst elseToken params :=
    mem_beforeFirst_of_idxOf_le (by decide) present ordered
  have cut := congrArg (List.count thenToken) (beforeFirst_append_afterFirst otherwise)
  have positive : 0 < (beforeFirst elseToken params).count thenToken := List.count_pos_iff.2 before
  rw [List.count_append, List.count_cons_of_ne (by decide)] at cut
  omega

theorem count_chosen_lt {params branch : List String} {result : Bool}
    (checked : Instruction.conditional.check params = .ok ())
    (taken : (Branches.ofParams params).chosen result = some branch) :
    branch.count thenToken < params.count thenToken := by
  obtain ⟨present, ordered⟩ := Instruction.check_conditional_eq_ok_iff.1 checked
  cases result with
  | true =>
      rw [← Option.some.inj taken]
      exact count_thenBranch_lt present
  | false =>
      simp only [Branches.chosen, Branches.ofParams] at taken
      split at taken
      · rename_i otherwise
        rw [← Option.some.inj taken]
        exact count_elseBranch_lt present otherwise (ordered otherwise)
      · cases taken

/-- A branch that a line enters has fewer THEN tokens than the line. -/
theorem Line.count_of_turn_enter {state : State} {line : Line} {branch : List String}
    (h : line.turn state = .enter branch) :
    branch.count thenToken < line.tokens.count thenToken := by
  rcases line.turn_cases state with ⟨failure, failed⟩ |
    ⟨type, params, instruction, tokens, -, checked, ⟨rfl, conditional⟩ | ⟨-, acted⟩⟩
  · rw [failed] at h
    cases h
  · obtain ⟨result, taken⟩ := conditionalTurn_enter (conditional.symm.trans h)
    rw [tokens]
    exact Nat.lt_of_lt_of_le (count_chosen_lt checked taken) (List.count_le_count_cons ..)
  · rw [acted] at h
    cases h

/-! ### Runs with a log -/

/-- A text that is run as a branch, with the statement that it stands in and the context that it is
run in. -/
structure Call where
  caller : String
  context : Context
  text : String
  deriving DecidableEq, Repr

/-- A source of dice beside the calls that have been made so far. -/
structure CallLog (σ : Type) where
  source : σ
  calls : List Call

instance {σ : Type} [Dice.Source σ] : Dice.Source (CallLog σ) where
  draw sides positive log :=
    let answer := Dice.Source.draw sides positive log.source
    (answer.1, ⟨answer.2, log.calls⟩)

section Logging

variable {σ : Type}

/-- The session without its log. -/
def Session.withoutLog (session : Session (CallLog σ)) : Session σ :=
  ⟨session.state, session.source.source⟩

def Session.note (session : Session (CallLog σ)) (call : Call) : Session (CallLog σ) :=
  ⟨session.state, ⟨session.source.source, session.source.calls ++ [call]⟩⟩

def Outcome.withoutLog (outcome : Outcome (CallLog σ)) : Outcome σ :=
  ⟨outcome.failure?, outcome.session.withoutLog⟩

theorem Outcome.withoutLog_andThen {outcome : Outcome (CallLog σ)}
    {next : Session (CallLog σ) → Outcome (CallLog σ)} {plain : Session σ → Outcome σ}
    (same : ∀ session, (next session).withoutLog = plain session.withoutLog) :
    (outcome.andThen next).withoutLog = outcome.withoutLog.andThen plain := by
  obtain ⟨failure, session⟩ := outcome
  cases failure with
  | none => exact same session
  | some cause => rfl

variable [Dice.Source σ]

/-- Runs pieces one after the other; a branch is handed on together with the piece it stands in. -/
def runCalling (call : String → String → Session σ → Outcome σ) : List String → Session σ → Outcome σ
  | [], session => .done session
  | piece :: rest, session => (runPiece (call piece) piece session).andThen (runCalling call rest)

def callWithin : Nat → Context → String → String → Session (CallLog σ) → Outcome (CallLog σ)
  | 0, context, _, _, session => .failed context.tooDeep session
  | levels + 1, context, caller, branch, session =>
      runCalling (callWithin levels context.inner) (pieces (some branch))
        (session.note ⟨caller, context.inner, branch⟩)

/-- Notes the call of a branch and runs it one level deeper, and so on for the branches in it. -/
def call (context : Context) (caller branch : String) (session : Session (CallLog σ)) :
    Outcome (CallLog σ) :=
  callWithin context.levels context caller branch session

/-- The run of a script that notes its calls. -/
def runNoting (context : Context) (script : Option String) (session : Session (CallLog σ)) :
    Outcome (CallLog σ) :=
  runCalling (call context) (pieces script) session

theorem call_eq (context : Context) (caller branch : String) (session : Session (CallLog σ)) :
    call context caller branch session =
      match context.nested with
      | .error failure => .failed failure session
      | .ok inner => runNoting inner (some branch) (session.note ⟨caller, inner, branch⟩) := by
  unfold call
  cases found : context.levels with
  | zero => rw [Context.levels_eq_zero_iff.1 found, callWithin]
  | succ levels =>
      obtain ⟨fewer, allowed⟩ := Context.levels_inner found
      rw [allowed, callWithin, ← fewer]
      rfl

/-- Beside a log an action writes what it writes without one, and the log stays as it is. -/
theorem Action.written_log (action : Action) (state : State) (log : CallLog σ) :
    action.written state log =
      (action.written state log.source).map fun change => (change.1, ⟨change.2, log.calls⟩) := by
  cases action with
  | roll size key =>
      unfold written
      dsimp only
      cases die? size <;> rfl
  | _ =>
      rw [written_of_ne_roll Instruction.noConfusion state log.source log,
        written_of_ne_roll Instruction.noConfusion state log.source log.source]
      cases written _ state log.source <;> rfl

theorem act_log (action : Action) (session : Session (CallLog σ)) :
    (act action.instruction action.params session).withoutLog =
        act action.instruction action.params session.withoutLog ∧
      (act action.instruction action.params session).session.source.calls =
        session.source.calls := by
  rw [Action.act_eq_settle, Action.act_eq_settle, Action.written_log]
  show _ = Session.settle _ _ (action.written session.state session.source.source) ∧ _
  cases action.written session.state session.source.source with
  | error failure => exact ⟨rfl, rfl⟩
  | ok change => exact ⟨rfl, rfl⟩

theorem withoutLog_runPiece {noting : String → Session (CallLog σ) → Outcome (CallLog σ)}
    {plain : String → Session σ → Outcome σ}
    (same : ∀ branch session, (noting branch session).withoutLog = plain branch session.withoutLog)
    (piece : String) (session : Session (CallLog σ)) :
    (runPiece noting piece session).withoutLog = runPiece plain piece session.withoutLog := by
  rw [runPiece_eq, runPiece_eq]
  show _ = Turn.carryOut _ ((Line.ofPiece piece).turn session.state) _
  cases turn : (Line.ofPiece piece).turn session.state with
  | fail failure => rfl
  | skip => rfl
  | enter branch => exact same _ session
  | simple instruction params =>
      obtain ⟨action, rfl, rfl, -⟩ := Line.turn_simple turn
      exact (act_log action session).1

theorem withoutLog_runCalling {noting : String → String → Session (CallLog σ) → Outcome (CallLog σ)}
    {plain : String → Session σ → Outcome σ}
    (same : ∀ caller branch session,
      (noting caller branch session).withoutLog = plain branch session.withoutLog)
    (texts : List String) (session : Session (CallLog σ)) :
    (runCalling noting texts session).withoutLog = runPieces plain texts session.withoutLog := by
  induction texts generalizing session with
  | nil => rfl
  | cons piece rest ih =>
      rw [runCalling, runPieces, Outcome.withoutLog_andThen ih, withoutLog_runPiece (same piece)]

/-- By induction on the levels that are left: a call is what entering the branch is without a log. -/
theorem withoutLog_call (context : Context) (caller branch : String) (session : Session (CallLog σ)) :
    (call context caller branch session).withoutLog = enter context branch session.withoutLog := by
  induction found : context.levels generalizing context caller branch session with
  | zero =>
      rw [call_eq, enter, Context.levels_eq_zero_iff.1 found]
      rfl
  | succ levels ih =>
      obtain ⟨fewer, allowed⟩ := Context.levels_inner found
      rw [call_eq, enter, allowed]
      dsimp only
      rw [runNoting, run_eq,
        withoutLog_runCalling fun caller branch session => ih context.inner caller branch session fewer]
      rfl

theorem withoutLog_runNoting (context : Context) (script : Option String)
    (session : Session (CallLog σ)) :
    (runNoting context script session).withoutLog = run context script session.withoutLog := by
  rw [runNoting, run_eq, withoutLog_runCalling (withoutLog_call context)]

end Logging

/-! ### The calls of one statement -/

/-- The calls lead downwards: the first is made by the statement, and each of the others by the text
that the call before it runs. Each is one level deeper, within the limit, and passes on fewer THEN
tokens than its caller has. After the last there is no branch to enter or no level for it. -/
inductive LeadDown (state : State) : Context → String → List Call → Prop
  | stop {context : Context} {caller : String}
      (last : ∀ branch, (Line.ofPiece caller).turn state = .enter branch →
        context.limit ≤ context.depth) : LeadDown state context caller []
  | next {context : Context} {caller : String} {branch : List String} {calls : List Call}
      (turn : (Line.ofPiece caller).turn state = .enter branch)
      (within : context.depth < context.limit)
      (fewer : thenCount (unwords branch) < thenCount caller)
      (deeper : LeadDown state context.inner (unwords branch) calls) :
      LeadDown state context caller (⟨caller, context.inner, unwords branch⟩ :: calls)

namespace LeadDown

variable {state : State} {context : Context} {caller : String} {calls : List Call}

theorem length_le (h : LeadDown state context caller calls) : calls.length ≤ thenCount caller := by
  induction h with
  | stop => exact Nat.zero_le _
  | next turn within fewer deeper ih => exact Nat.lt_of_le_of_lt ih fewer

theorem fewer (h : LeadDown state context caller calls) :
    ∀ call ∈ calls, thenCount call.text < thenCount call.caller := by
  induction h with
  | stop => simp
  | next turn within fewer deeper ih => exact List.forall_mem_cons.2 ⟨fewer, ih⟩

theorem depth_le (h : LeadDown state context caller calls) :
    ∀ call ∈ calls,
      call.context.depth ≤ min context.limit (context.depth + thenCount caller) := by
  induction h with
  | stop => simp
  | @next context caller branch calls turn within fewer deeper ih =>
      have below : context.inner.depth = context.depth + 1 := rfl
      have same : context.inner.limit = context.limit := rfl
      rw [below, same] at ih
      refine List.forall_mem_cons.2 ⟨?_, fun call member => ?_⟩
      · show context.depth + 1 ≤ _
        omega
      · have bound := ih call member
        omega

end LeadDown

variable {σ : Type} [Dice.Source σ]

theorem thenCount_unwords {tokens : List String} (solid : ∀ token ∈ tokens, IsWord token) :
    thenCount (unwords tokens) = tokens.count thenToken := by
  rw [thenCount, words_unwords solid]

/-- By induction on the THEN tokens of the statement: the branch that it enters has fewer. -/
theorem runPiece_call (context : Context) {piece : String} (single : ';' ∉ piece.toList)
    (session : Session (CallLog σ)) :
    ∃ calls, (runPiece (call context piece) piece session).session.source.calls =
        session.source.calls ++ calls ∧ LeadDown session.state context piece calls := by
  induction size : thenCount piece using Nat.strongRecOn generalizing piece context session with
  | ind size ih =>
      subst size
      have silent : (∀ branch, (Line.ofPiece piece).turn session.state = .enter branch →
          context.limit ≤ context.depth) → ∃ calls, session.source.calls =
            session.source.calls ++ calls ∧ LeadDown session.state context piece calls :=
        fun last => ⟨[], (List.append_nil _).symm, .stop last⟩
      rw [runPiece_eq]
      cases turn : (Line.ofPiece piece).turn session.state with
      | fail failure => exact silent fun branch entered => nomatch turn.symm.trans entered
      | skip => exact silent fun branch entered => nomatch turn.symm.trans entered
      | simple instruction params =>
          obtain ⟨action, rfl, rfl, -⟩ := Line.turn_simple turn
          show ∃ calls, (act _ _ session).session.source.calls = _ ∧ _
          rw [(act_log action session).2]
          exact silent fun branch entered => nomatch turn.symm.trans entered
      | enter branch =>
          have plain : ∀ token ∈ branch, IsToken token := fun token member =>
            isToken_of_mem_words single (Line.mem_of_turn_enter turn member)
          have fewer : thenCount (unwords branch) < thenCount piece := by
            rw [thenCount_unwords fun token member => (plain token member).isWord]
            exact Line.count_of_turn_enter turn
          have uncut : ';' ∉ (unwords branch).toList :=
            not_mem_unwords fun token member => (plain token member).2
          rw [Turn.carryOut, call_eq]
          cases nested : context.nested with
          | error failure => exact silent fun _ _ => (Context.nested_eq_error_iff.1 nested).1
          | ok inner =>
              obtain ⟨within, rfl⟩ := Context.nested_eq_ok_iff.1 nested
              dsimp only
              rw [runNoting]
              -- An empty branch is entered too, but it has no piece that could go on.
              by_cases empty : unwords branch = ""
              · refine ⟨_, ?_, .next turn within fewer (.stop fun further entered => ?_)⟩
                · rw [empty, pieces_empty]
                  rfl
                · rw [empty] at entered
                  cases entered
              · obtain ⟨calls, noted, deeper⟩ := ih _ fewer context.inner uncut
                  (session.note ⟨piece, context.inner, unwords branch⟩) rfl
                refine ⟨⟨piece, context.inner, unwords branch⟩ :: calls, ?_,
                  .next turn within fewer deeper⟩
                have alone (outcome : Outcome (CallLog σ)) :
                    outcome.andThen (runCalling (call context.inner) []) = outcome :=
                  outcome.andThen_done_right
                rw [pieces_eq_singleton empty uncut, runCalling, alone, noted]
                exact List.append_assoc _ [_] calls

/-- With a level for each THEN token that is left, no branch is refused on the way down. -/
theorem descend_within {state : State} (context : Context) (line : Line)
    (room : context.depth + line.tokens.count thenToken ≤ context.limit) (depth limit : Int) :
    descend context state line ≠ .error (.depthExceeded depth limit) := by
  induction context, line using descend_induction state with
  | step context line ih =>
      intro refused
      rw [descend_eq] at refused
      cases turn : line.turn state with
      | fail failure =>
          rw [turn] at refused
          cases refused
          exact Line.isMalformed_of_turn turn
      | skip =>
          rw [turn] at refused
          cases refused
      | simple instruction params =>
          rw [turn] at refused
          cases refused
      | enter branch =>
          have fewer := Line.count_of_turn_enter turn
          have nested : context.nested = .ok context.inner :=
            Context.nested_eq_ok_iff.2 ⟨by omega, rfl⟩
          simp only [turn, nested] at refused
          split at refused
          · cases refused
          · rename_i filled
            refine ih branch context.inner turn nested filled ?_ refused
            show context.depth + 1 + (branch.count thenToken : Int) ≤ context.limit
            omega

theorem runPiece_within {context : Context} {piece : String} (single : ';' ∉ piece.toList)
    (room : context.depth + thenCount piece ≤ context.limit) (session : Session σ)
    (depth limit : Int) :
    (runPiece (enter context) piece session).failure? ≠ some (.depthExceeded depth limit) := by
  intro failed
  rw [runPiece_eq_runLine single] at failed
  rcases runLine_failure failed with refused | ⟨action, -, written⟩
  · exact descend_within context (.ofPiece piece) room depth limit refused
  · rcases action.written_failure session.state session.source with ⟨-, large⟩ | ⟨-, causes⟩
    · cases written.symm.trans large
    · rcases causes _ written with malformed | ⟨token, other⟩
      · exact malformed
      · cases other

/-- Each run that a statement nests is a call of fewer THEN tokens than its caller has, so there are
no more of them than the statement has THEN tokens, nor are they deeper than that. A script whose
statements have a level for each THEN token of theirs never meets the limit. The log that shows
the calls holds each of them and changes nothing. -/
theorem nesting_is_bounded_by_then_tokens (context : Context) (script : Option String) :
    (∀ session : Session (CallLog σ),
      (runNoting context script session).withoutLog = run context script session.withoutLog) ∧
    (∀ (caller branch : String) (session : Session (CallLog σ)),
      call context caller branch session =
        match context.nested with
        | .error failure => .failed failure session
        | .ok inner => runNoting inner (some branch) ⟨session.state,
            ⟨session.source.source, session.source.calls ++ [⟨caller, inner, branch⟩]⟩⟩) ∧
    (∀ piece ∈ pieces script, ∀ session : Session (CallLog σ), ∃ calls,
      (runPiece (call context piece) piece session).session.source.calls =
          session.source.calls ++ calls ∧
        LeadDown session.state context piece calls ∧ calls.length ≤ thenCount piece ∧
        ∀ call ∈ calls, thenCount call.text < thenCount call.caller ∧
          call.context.depth ≤ min context.limit (context.depth + thenCount piece)) ∧
    ((∀ piece ∈ pieces script, (thenCount piece : Int) ≤ context.limit - context.depth) →
      ∀ (session : Session σ) (depth limit : Int),
        (run context script session).failure? ≠ some (.depthExceeded depth limit)) := by
  refine ⟨withoutLog_runNoting context script, call_eq context, fun piece member session => ?_,
    fun room => ?_⟩
  · obtain ⟨calls, noted, down⟩ := runPiece_call context (not_mem_of_mem_pieces member) session
    exact ⟨calls, noted, down, down.length_le,
      fun call inside => ⟨down.fewer call inside, down.depth_le call inside⟩⟩
  · intro session depth limit failed
    rw [run_eq] at failed
    obtain ⟨before, piece, after, reached, cut, -, stopped, -⟩ := runPieces_stops _ failed
    have member : piece ∈ pieces script := by simp [cut]
    have enough := room piece member
    exact runPiece_within (not_mem_of_mem_pieces member) (by omega) reached depth limit stopped

/-- The branch behind ELSE keeps two of the three THEN tokens, and each run in it is a call of one
fewer. There is a level for each. -/
theorem else_branch_keeps_two_then_tokens :
    let piece :=
      "IF luck IS 7 THEN GOTO inn ELSE IF luck > 2 THEN IF luck < 6 THEN SET road open"
    let script := some ("ROLL 6 luck;" ++ piece)
    let context : Context := ⟨1, 4⟩
    let session : Session (CallLog Dice.Prepared) :=
      ⟨.ofList [("luck", some (.integer 5))], ⟨⟨[3]⟩, []⟩⟩
    let first := "IF luck > 2 THEN IF luck < 6 THEN SET road open"
    let second := "IF luck < 6 THEN SET road open"
    let calls : List Call :=
      [⟨piece, ⟨2, 4⟩, first⟩, ⟨first, ⟨3, 4⟩, second⟩, ⟨second, ⟨4, 4⟩, "SET road open"⟩]
    piece ∈ pieces script ∧
      (∀ piece ∈ pieces script, (thenCount piece : Int) ≤ context.limit - context.depth) ∧
      (runNoting context script session).withoutLog = run context script session.withoutLog ∧
      (runPiece (call context piece) piece session).session.source.calls = calls ∧
      (runNoting context script session).session.source.calls = calls ∧
      LeadDown session.state context piece calls ∧
      ∀ depth limit,
        (run context script session.withoutLog).failure? ≠ some (.depthExceeded depth limit) := by
  intro piece script context session first second calls
  have member : piece ∈ pieces script := by decide +kernel
  have room : ∀ piece ∈ pieces script,
      (thenCount piece : Int) ≤ context.limit - context.depth := by decide +kernel
  have made : (runPiece (call context piece) piece session).session.source.calls = calls := by
    decide +kernel
  have logged : (runNoting context script session).session.source.calls = calls := by
    decide +kernel
  obtain ⟨erased, -, nested, within⟩ :=
    @nesting_is_bounded_by_then_tokens Dice.Prepared _ context script
  obtain ⟨lower, noted, down, -⟩ := nested piece member session
  have same : lower = calls := noted.symm.trans made
  rw [same] at down
  exact ⟨member, room, erased session, made, logged, down, within room session.withoutLog⟩

end NarrativeScript.Script
