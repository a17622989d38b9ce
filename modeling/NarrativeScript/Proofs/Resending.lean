import NarrativeScript.Proofs.ServerError
import NarrativeScript.Proofs.ShownState

/-!
# States sent back

The service keeps no state: a run is asked for with a state and answered with
the one that it leaves, which is meant to be sent with the next request. It is
accepted there and shown again as it was if every number in it is finite. If
not, the next request is refused.
-/

namespace NarrativeScript

namespace Script

variable {σ : Type} [Dice.Source σ]

/-- A run adds values only. -/
theorem run_isFilled {context : Context} {script : Option String} {session : Session σ}
    (filled : session.state.IsFilled) :
    (run context script session).session.state.IsFilled := by
  rw [run_eq_runLines_ofPiece]
  refine runLines_preserves (fun line _ state source action value rest _ _ kept => ?_) filled
  exact kept.set action.key value

theorem isFilled_of_process {limit : Int} {script : Option String} {session after : Session σ}
    (filled : session.state.IsFilled) (h : process limit script session = .done after) :
    after.state.IsFilled := by
  unfold process at h
  split at h
  · have kept : (run ⟨0, limit⟩ script session).session.state.IsFilled := run_isFilled filled
    rw [h] at kept
    exact kept
  · cases h

theorem process_of_idle {limit : Int} (inRange : Depth.InRange limit) {script : Option String}
    (idle : pieces script = []) (session : Session σ) :
    process limit script session = .done session := by
  rw [process, if_pos inRange, run_eq, idle, runPieces]

end Script

namespace Service

open Script

theorem ofFailure_ne_answer (failure : Failure) (body : Document) :
    Reply.ofFailure failure ≠ .answer 200 body := by
  intro answered
  unfold Reply.ofFailure at answered
  split at answered <;> cases answered

theorem ofProblems_ne_answer (problems : List Problem) (status : Nat) (body : Document) :
    Reply.ofProblems problems ≠ .answer status body := by
  intro answered
  unfold Reply.ofProblems at answered
  split at answered <;> cases answered

theorem ofOutcome_answered {σ : Type} {outcome : Outcome σ} {body : Document}
    (h : Reply.ofOutcome outcome = .answer 200 body) :
    ∃ state source, outcome = .done ⟨state, source⟩ ∧ Reply.ofState state = .answer 200 body := by
  obtain ⟨failure, state, source⟩ := outcome
  cases failure with
  | none => exact ⟨state, source, rfl, h⟩
  | some failure => exact absurd h (ofFailure_ne_answer failure body)

/-- The request asks for a run of no statement on the state that a document shows. -/
structure Resends (next : Request) (shown : Document) : Prop where
  route : Route.ofTarget? next.target = some .runScript
  post : Text.upper next.method = "POST"
  configured : ∃ settings, Settings.read next.environment = .ok settings
  body : ∃ fields script seed, next.body = some (.object fields) ∧
    fields.lookup "state" = some shown ∧ readInstructions fields = .ok script ∧
    pieces script = [] ∧ readSeed fields = .ok seed

variable {σ : Type} [Dice.Source σ]

theorem runScript_of_idle (unseeded : σ) (settings : Settings) {script : Option String}
    (idle : pieces script = []) (state : State) (seed : Option Int) :
    runScript unseeded settings ⟨script, state, seed⟩ = .ofState state := by
  cases seed with
  | none =>
      show Reply.ofOutcome (process _ script _) = _
      rw [process_of_idle settings.inRange idle]
      rfl
  | some seed =>
      show Reply.ofOutcome (process _ script _) = _
      rw [process_of_idle settings.inRange idle]
      rfl

theorem reply_resends_of_isWritable (later : σ) {next : Request} {state : State}
    (resends : Resends next (Document.ofState state)) (filled : state.IsFilled)
    (writable : state.IsWritable) : reply later next = .ofState state := by
  obtain ⟨settings, configured⟩ := resends.configured
  obtain ⟨fields, script, seed, body, shown, instructions, idle, seeded⟩ := resends.body
  have valid : RunRequest.read next.body = .ok ⟨script, state, seed⟩ := by
    rw [body]
    show (Checked.both (readInstructions fields) _).map _ = _
    rw [instructions, readState_of_isWritable filled writable shown, seeded]
    rfl
  rw [reply_eq_runScript resends.route resends.post configured valid, runScript_of_idle _ _ idle]

theorem reply_resends_of_not_isWritable (later : σ) {next : Request} {state : State}
    (resends : Resends next (Document.ofState state)) (filled : state.IsFilled)
    (unwritable : ¬ state.IsWritable) : reply later next = .invalid (shownProblems state) := by
  obtain ⟨settings, configured⟩ := resends.configured
  obtain ⟨fields, script, seed, body, shown, instructions, idle, seeded⟩ := resends.body
  have refused : RunRequest.read next.body = .error (shownProblems state) := by
    rw [body]
    show (Checked.both (readInstructions fields) _).map _ = _
    rw [instructions, readState_of_not_isWritable unwritable shown, seeded]
    show Except.error ([] ++ (shownProblems state ++ [])) = _
    rw [List.append_nil, List.nil_append]
  have writable : ((shownProblems state).all fun problem => problem.found.isWritable) = true := by
    refine List.all_eq_true.2 fun problem member => ?_
    rw [(mem_shownProblems filled member).1]
    rfl
  unfold reply
  rw [resends.route]
  dsimp only
  rw [if_pos (resends.post ▸ List.mem_cons_self)]
  unfold runRoute
  rw [configured]
  dsimp only
  rw [refused]
  exact if_pos writable

/-- The run that a request asks for succeeds and leaves the state. -/
def RunRequest.Leaves (unseeded : σ) (settings : Settings) (request : RunRequest) (state : State) :
    Prop :=
  match request.seed with
  | none =>
      ∃ source, process settings.depthLimit request.instructions ⟨request.state, unseeded⟩ =
        .done ⟨state, source⟩
  | some seed =>
      ∃ source, process settings.depthLimit request.instructions
        (Session.mk request.state (Dice.Twister.ofSeed seed)) = .done ⟨state, source⟩

theorem runScript_answered {unseeded : σ} {settings : Settings} {request : RunRequest}
    {body : Document} (h : runScript unseeded settings request = .answer 200 body) :
    ∃ state, request.Leaves unseeded settings state ∧ Reply.ofState state = .answer 200 body := by
  unfold runScript at h
  unfold RunRequest.Leaves
  cases seeded : request.seed with
  | none =>
      rw [seeded] at h
      obtain ⟨state, source, left, shown⟩ := ofOutcome_answered h
      exact ⟨state, ⟨source, left⟩, shown⟩
  | some seed =>
      rw [seeded] at h
      obtain ⟨state, source, left, shown⟩ := ofOutcome_answered h
      exact ⟨state, ⟨source, left⟩, shown⟩

theorem runScript_of_leaves {unseeded : σ} {settings : Settings} {request : RunRequest} {state : State}
    (h : request.Leaves unseeded settings state) :
    runScript unseeded settings request = .ofState state := by
  unfold RunRequest.Leaves at h
  unfold runScript
  cases seeded : request.seed with
  | none =>
      rw [seeded] at h
      obtain ⟨source, left⟩ := h
      exact congrArg Reply.ofOutcome left
  | some seed =>
      rw [seeded] at h
      obtain ⟨source, left⟩ := h
      exact congrArg Reply.ofOutcome left

theorem leaves_of_succeeds {unseeded : σ} {settings : Settings} {script : Option String}
    {given state : State}
    (succeeded : (process settings.depthLimit script ⟨given, unseeded⟩).failure? = none)
    (ended : (process settings.depthLimit script ⟨given, unseeded⟩).session.state = state) :
    RunRequest.Leaves unseeded settings ⟨script, given, none⟩ state := by
  subst ended
  exact ⟨_, Outcome.eq_done succeeded⟩

theorem RunRequest.Leaves.unique {unseeded : σ} {settings : Settings} {request : RunRequest}
    {first second : State} (h : request.Leaves unseeded settings first)
    (other : request.Leaves unseeded settings second) : first = second := by
  unfold RunRequest.Leaves at h other
  cases seeded : request.seed with
  | none =>
      rw [seeded] at h other
      obtain ⟨⟨_, left⟩, ⟨_, again⟩⟩ := And.intro h other
      cases left.symm.trans again
      rfl
  | some seed =>
      rw [seeded] at h other
      obtain ⟨⟨_, left⟩, ⟨_, again⟩⟩ := And.intro h other
      cases left.symm.trans again
      rfl

theorem reply_answered {unseeded : σ} {request : Request} {body : Document}
    (route : Route.ofTarget? request.target = some .runScript)
    (h : reply unseeded request = .answer 200 body) :
    ∃ settings run, Settings.read request.environment = .ok settings ∧
      RunRequest.read request.body = .ok run ∧
      runScript unseeded settings run = .answer 200 body := by
  unfold reply at h
  rw [route] at h
  dsimp only at h
  split at h
  · unfold runRoute at h
    cases configured : Settings.read request.environment with
    | error fault =>
        rw [configured] at h
        cases h
    | ok settings =>
        rw [configured] at h
        cases valid : RunRequest.read request.body with
        | error problems =>
            rw [valid] at h
            exact absurd h (ofProblems_ne_answer problems 200 body)
        | ok run =>
            rw [valid] at h
            exact ⟨settings, run, rfl, rfl, h⟩
  · cases h

theorem isFilled_of_leaves {unseeded : σ} {settings : Settings} {request : RunRequest} {state : State}
    (filled : request.state.IsFilled) (h : request.Leaves unseeded settings state) :
    state.IsFilled := by
  unfold RunRequest.Leaves at h
  split at h
  · obtain ⟨source, left⟩ := h
    exact isFilled_of_process filled left
  · obtain ⟨source, left⟩ := h
    exact isFilled_of_process filled left

/-- The field of an object under a name. -/
def Document.field? (name : String) : Document → Option Document
  | .object fields => fields.lookup name
  | _ => none

theorem field?_of_ofState {state : State} {body : Document}
    (shown : Reply.ofState state = .answer 200 body) :
    body.field? "state" = some (Document.ofState state) := by
  cases shown
  rfl

/-- A request to run a script, in an environment without settings. -/
def posting (fields : List (String × Document)) : Request :=
  ⟨"POST", Route.runScript.address, some (.object fields), fun _ => none⟩

theorem posting_route (fields : List (String × Document)) :
    Route.ofTarget? (posting fields).target = some .runScript :=
  Route.ofTarget?_address .runScript

theorem posting_post (fields : List (String × Document)) :
    Text.upper (posting fields).method = "POST" := by
  show Text.upper "POST" = "POST"
  decide +kernel

theorem resends_posting (shown : Document) : Resends (posting [("state", shown)]) shown :=
  ⟨posting_route _, posting_post _, ⟨_, Settings.read_none⟩,
    ⟨_, none, none, rfl, rfl, rfl, rfl, rfl⟩⟩

/-- What is read from an environment without settings. -/
def standardSettings : Settings :=
  ⟨Depth.standard, .info, Depth.standard_inRange⟩

theorem reply_posting {unseeded : σ} {fields : List (String × Document)} {run : RunRequest}
    {state : State} (valid : RunRequest.read (posting fields).body = .ok run)
    (left : run.Leaves unseeded standardSettings state) :
    reply unseeded (posting fields) = .ofState state := by
  rw [reply_eq_runScript (posting_route fields) (posting_post fields) Settings.read_none valid unseeded]
  exact runScript_of_leaves left

/-! ### The state comes back -/

/-- A request to run a script is answered with the state that its run leaves. Sent back with no
instructions, that state is answered as it was if every number in it is finite; if not, the request
is refused for the entries that hold the other numbers. -/
theorem shown_state_comes_back_iff_writable (unseeded later : σ) {request : Request} {body : Document}
    (route : Route.ofTarget? request.target = some .runScript)
    (answered : reply unseeded request = .answer 200 body) :
    ∃ settings run state, Settings.read request.environment = .ok settings ∧
      RunRequest.read request.body = .ok run ∧ run.Leaves unseeded settings state ∧
      body.field? "state" = some (Document.ofState state) ∧
      ∀ next, Resends next (Document.ofState state) →
        (state.IsWritable → reply later next = .answer 200 body) ∧
        (¬ state.IsWritable → ∃ problems, reply later next = .invalid problems ∧
          ∀ key, (∃ problem ∈ problems, problem.LiesAt key) ↔
            ∃ value, state.get? key = some value ∧ Document.writableValue value = false) := by
  obtain ⟨settings, run, configured, valid, ran⟩ := reply_answered route answered
  obtain ⟨state, left, shown⟩ := runScript_answered ran
  have filled : state.IsFilled := isFilled_of_leaves (isFilled_of_read valid) left
  refine ⟨settings, run, state, configured, valid, left, field?_of_ofState shown, ?_⟩
  intro next resends
  constructor
  · intro writable
    rw [reply_resends_of_isWritable later resends filled writable, shown]
  · intro unwritable
    exact ⟨shownProblems state, reply_resends_of_not_isWritable later resends filled unwritable,
      fun key => liesAt_shownProblems_iff filled⟩

/-- A sum with a text that reads as a half is a binary64 number. It comes back, and so do the text,
the integer and the flag beside it, each of its own kind. -/
theorem half_comes_back :
    let unseeded : Dice.Prepared := ⟨[]⟩
    let first := posting [("instructions", .text "SET half 0.5;ADD gold half"), ("state", .object
      [("gold", .value (.integer 2)), ("coins", .value (.integer 3)), ("open", .value (.boolean true))])]
    let final := State.ofList [("gold", some (.number (.real (.ofBits 0x4004000000000000)))),
      ("coins", some (.integer 3)), ("open", some (.boolean true)), ("half", some (.text "0.5"))]
    let next := posting [("state", Document.ofState final)]
    ∃ body, reply unseeded first = .answer 200 body ∧
      body.field? "state" = some (Document.ofState final) ∧ Resends next (Document.ofState final) ∧
      reply unseeded next = .answer 200 body := by
  intro unseeded first final next
  let run : RunRequest := ⟨some "SET half 0.5;ADD gold half", .ofList [("gold", some (.integer 2)),
    ("coins", some (.integer 3)), ("open", some (.boolean true))], none⟩
  have valid : RunRequest.read first.body = .ok run := by rfl
  have left : run.Leaves unseeded standardSettings final :=
    leaves_of_succeeds (by decide +kernel) (by decide +kernel)
  have answered : reply unseeded first = _ := reply_posting valid left
  obtain ⟨_, _, state, configured, validAgain, leaves, found, comes⟩ :=
    shown_state_comes_back_iff_writable unseeded unseeded (posting_route _) answered
  cases configured.symm.trans Settings.read_none
  cases validAgain.symm.trans valid
  cases leaves.unique left
  have writable : final.IsWritable := by decide +kernel
  exact ⟨_, answered, found, resends_posting _, (comes next (resends_posting _)).1 writable⟩

/-- The square of a large number is shown as nothing, and nothing is refused. -/
theorem not_every_shown_state_comes_back :
    ¬ ∀ (first next : Request) (body shown : Document),
      Route.ofTarget? first.target = some .runScript →
        reply (Dice.Prepared.mk []) first = .answer 200 body → body.field? "state" = some shown →
          Resends next shown → reply (Dice.Prepared.mk []) next = .answer 200 body := by
  intro comes
  let large : Value := .number (.real (.ofBits 0x6974E718D7D7625A))
  let run : RunRequest := ⟨some "MUL a a", .ofList [("a", some large)], none⟩
  let final := State.ofList [("a", some (.number (.real (.infinity false))))]
  have left : run.Leaves (Dice.Prepared.mk []) standardSettings final :=
    leaves_of_succeeds (by decide +kernel) (by decide +kernel)
  have answered : reply (Dice.Prepared.mk [])
      (posting [("instructions", .text "MUL a a"), ("state", .object [("a", .value large)])]) = _ :=
    reply_posting (by rfl) left
  have refused := reply_resends_of_not_isWritable (Dice.Prepared.mk []) (resends_posting _)
    (isFilled_of_leaves (State.isFilled_ofList (by decide)) left) (by decide +kernel)
  have accepted := comes _ _ _ _ (posting_route _) answered (field?_of_ofState rfl) (resends_posting _)
  cases refused.symm.trans accepted

end Service

end NarrativeScript
