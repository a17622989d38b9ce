import NarrativeScript.Dice.Prepared
import NarrativeScript.Proofs.Authored
import NarrativeScript.Service.Reply

/-!
# When a run is the fault of the service

A script is refused for what it says, and its author is told so, unless the run
comes to a sum, a difference or a product with an operand that is too large.
Then the failure has no label, and a request to run the script is answered as a
failure of the service. Apart from that such a request is answered.
-/

namespace NarrativeScript.Script

variable {σ : Type} [Dice.Source σ]

/-- Only an operand that is too large makes a run fail for a reason outside the script. -/
theorem process_failure {limit : Int} (inRange : Depth.InRange limit) (script : Option String)
    (session : Session σ) :
    (Overflows ⟨0, limit⟩ script session →
      (process limit script session).failure? = some .oversizedInteger) ∧
    (¬ Overflows ⟨0, limit⟩ script session →
      ∀ failure, (process limit script session).failure? = some failure → failure.IsAuthored) := by
  rw [process, if_pos inRange]
  exact ⟨run_overflow, fun bounded failure => isAuthored_of_run bounded⟩

end NarrativeScript.Script

namespace NarrativeScript.Service

open NarrativeScript.Script

/-- The reply is a result or tells the author what is wrong with the script. -/
def Reply.Answers (reply : Reply) : Prop :=
  ∃ body, reply = .answer 200 body ∨ reply = .answer 422 body

variable {σ : Type} [Dice.Source σ]

/-- The run that a request asks for comes to arithmetic on an operand that is too large. -/
def RunRequest.Overflows (unseeded : σ) (settings : Settings) (request : RunRequest) : Prop :=
  let context : Context := ⟨0, settings.depthLimit⟩
  match request.seed with
  | none => Script.Overflows context request.instructions ⟨request.state, unseeded⟩
  | some seed =>
      Script.Overflows context request.instructions
        (Session.mk request.state (Dice.Twister.ofSeed seed))

theorem ofOutcome_process {limit : Int} (inRange : Depth.InRange limit) (script : Option String)
    (session : Session σ) :
    (Script.Overflows ⟨0, limit⟩ script session →
      Reply.ofOutcome (process limit script session) = .serverError) ∧
    (¬ Script.Overflows ⟨0, limit⟩ script session →
      (Reply.ofOutcome (process limit script session)).Answers) := by
  obtain ⟨fails, authored⟩ := process_failure inRange script session
  unfold Reply.ofOutcome
  constructor
  · intro large
    rw [fails large]
    rfl
  · intro bounded
    cases failed : (process limit script session).failure? with
    | none => exact ⟨_, .inl rfl⟩
    | some failure =>
        obtain ⟨label, labelled⟩ := Option.isSome_iff_exists.1 (authored bounded failure failed)
        dsimp only
        rw [Reply.ofFailure, labelled]
        exact ⟨_, .inr rfl⟩

theorem runScript_reply (unseeded : σ) (settings : Settings) (request : RunRequest) :
    (request.Overflows unseeded settings → runScript unseeded settings request = .serverError) ∧
    (¬ request.Overflows unseeded settings → (runScript unseeded settings request).Answers) := by
  unfold RunRequest.Overflows runScript
  cases request.seed with
  | none => exact ofOutcome_process settings.inRange _ _
  | some seed => exact ofOutcome_process settings.inRange _ _

theorem reply_eq_runScript {request : Request} {settings : Settings} {body : RunRequest}
    (route : Route.ofTarget? request.target = some .runScript)
    (post : Text.upper request.method = "POST")
    (configured : Settings.read request.environment = .ok settings)
    (valid : RunRequest.read request.body = .ok body) (unseeded : σ) :
    reply unseeded request = runScript unseeded settings body := by
  unfold reply
  rw [route]
  dsimp only
  rw [if_pos (post ▸ List.mem_cons_self)]
  unfold runRoute
  rw [configured]
  dsimp only
  rw [valid]

/-- A run that meets no operand that is too large fails only for what the script says, and a
request for it is answered. A run that meets one fails for that reason, which is no fault of the
script, and the request for it fails in the service. -/
theorem faults_lie_in_script_unless_overflow :
    (∀ (limit : Int) (script : Option String) (session : Session σ), Depth.InRange limit →
      (¬ Script.Overflows ⟨0, limit⟩ script session →
        ∀ failure, (process limit script session).failure? = some failure → failure.IsAuthored) ∧
      (Script.Overflows ⟨0, limit⟩ script session →
        (process limit script session).failure? = some .oversizedInteger)) ∧
    ∀ (unseeded : σ) (request : Request) (settings : Settings) (body : RunRequest),
      Route.ofTarget? request.target = some .runScript → Text.upper request.method = "POST" →
      Settings.read request.environment = .ok settings → RunRequest.read request.body = .ok body →
        (¬ body.Overflows unseeded settings → (reply unseeded request).Answers) ∧
        (body.Overflows unseeded settings → reply unseeded request = .serverError) := by
  constructor
  · intro limit script session inRange
    exact (process_failure inRange script session).symm
  · intro unseeded request settings body route post configured valid
    rw [reply_eq_runScript route post configured valid]
    exact (runScript_reply unseeded settings body).symm

/-- Three squares make a number of 321 digits, and a sum with that number fails. -/
def sumAfterSquares : String :=
  "SET a 10000000000000000000000000000000000000000;MUL a a;MUL a a;MUL a a;ADD a 1"

theorem sumAfterSquares_failure :
    (process 32 (some sumAfterSquares) ⟨.empty, Dice.Prepared.mk []⟩).failure? =
      some .oversizedInteger := by
  decide +kernel

/-- A script may fail for a reason that does not lie in it. -/
theorem not_every_fault_lies_in_script :
    ¬ ∀ (limit : Int) (script : Option String) (session : Session Dice.Prepared),
      Depth.InRange limit → ∀ failure, (process limit script session).failure? = some failure →
        failure.IsAuthored := by
  intro authored
  exact Failure.not_isAuthored_oversizedInteger
    (authored 32 (some sumAfterSquares) _ (by decide) _ sumAfterSquares_failure)

theorem read_instructions {script : String} (short : script.length ≤ longestText) :
    RunRequest.read (some (.object [("instructions", .text script)])) =
      .ok ⟨some script, .empty, none⟩ := by
  have checked : checkLength ["body", "instructions"] 0 script = .ok script := by
    rw [checkLength, if_neg (Nat.not_lt_zero _), if_neg (Nat.not_lt_of_le short)]
  show (Checked.both ((checkLength _ _ script).map some) _).map _ = _
  rw [checked]
  rfl

/-- The sum after the squares is a failure of the service; one with nothing is told to its
author. -/
theorem replies_to_oversized_and_to_undefined_sum :
    let post (script : String) : Request :=
      ⟨"post", "/scripts/run", some (.object [("instructions", .text script)]), fun _ => none⟩
    let settings : Settings := ⟨32, .info, by decide⟩
    let oversized : RunRequest := ⟨some sumAfterSquares, .empty, none⟩
    let undefined : RunRequest := ⟨some "ADD b 1", .empty, none⟩
    let unseeded : Dice.Prepared := ⟨[]⟩
    Depth.InRange 32 ∧
      (Script.Overflows ⟨0, 32⟩ (some sumAfterSquares) ⟨.empty, unseeded⟩ ∧
        (process 32 (some sumAfterSquares) ⟨.empty, unseeded⟩).failure? = some .oversizedInteger) ∧
      (¬ Script.Overflows ⟨0, 32⟩ (some "ADD b 1") ⟨.empty, unseeded⟩ ∧
        (Failure.undefinedValue "b").IsAuthored) ∧
      Route.ofTarget? "/scripts/run" = some .runScript ∧ Text.upper "post" = "POST" ∧
      Settings.read (fun _ => none) = .ok settings ∧
      (RunRequest.read (post sumAfterSquares).body = .ok oversized ∧
        reply unseeded (post sumAfterSquares) = .serverError) ∧
      (RunRequest.read (post "ADD b 1").body = .ok undefined ∧
        (reply unseeded (post "ADD b 1")).Answers) := by
  intro post settings oversized undefined unseeded
  have undefined_failure : (process 32 (some "ADD b 1") ⟨.empty, unseeded⟩).failure? =
      some (.undefinedValue "b") := by
    decide +kernel
  have large : Script.Overflows ⟨0, 32⟩ (some sumAfterSquares) ⟨.empty, unseeded⟩ := by
    by_contra bounded
    exact Failure.not_isAuthored_oversizedInteger
      ((faults_lie_in_script_unless_overflow.1 32 _ _ (by decide)).1 bounded _
        sumAfterSquares_failure)
  have small : ¬ Script.Overflows ⟨0, 32⟩ (some "ADD b 1") ⟨.empty, unseeded⟩ := by
    intro overflow
    have failed := (faults_lie_in_script_unless_overflow.1 32 _ _ (by decide)).2 overflow
    cases undefined_failure.symm.trans failed
  have route : Route.ofTarget? "/scripts/run" = some .runScript := by decide +kernel
  have upper : Text.upper "post" = "POST" := by decide +kernel
  have readOversized : RunRequest.read (post sumAfterSquares).body = .ok oversized :=
    read_instructions (by decide +kernel)
  have readUndefined : RunRequest.read (post "ADD b 1").body = .ok undefined :=
    read_instructions (by decide +kernel)
  refine ⟨by decide, ⟨large, sumAfterSquares_failure⟩, ⟨small, ?_⟩, route, upper,
    Settings.read_none, ⟨readOversized, ?_⟩, ⟨readUndefined, ?_⟩⟩
  · exact (faults_lie_in_script_unless_overflow.1 32 _ _ (by decide)).1 small _ undefined_failure
  · exact (faults_lie_in_script_unless_overflow.2 unseeded (post sumAfterSquares) settings oversized
      route upper Settings.read_none readOversized).2 large
  · exact (faults_lie_in_script_unless_overflow.2 unseeded (post "ADD b 1") settings undefined
      route upper Settings.read_none readUndefined).1 small

end NarrativeScript.Service
