import NarrativeScript.Dice.Twister
import NarrativeScript.Script.Run
import NarrativeScript.Service.Address
import NarrativeScript.Service.Request
import NarrativeScript.Settings

/-!
# Replies

Four addresses answer: a sign of life, a description, the running of a script
and the evaluation of a condition; four more hold pages about the service. A
failure that lies in the script is answered with its label and message; any
other failure is the service's own, and so is a list of problems that shows a
number without a written form. Settings are read before a script is run, and
before its request is looked at.
-/

namespace NarrativeScript.Service

/-- The pages about the service. -/
inductive Page where
  | schema
  | docs
  | docsRedirect
  | redoc
  deriving DecidableEq, Repr

inductive Route where
  | page (page : Page)
  | healthcheck
  | runScript
  | evaluate
  | info
  deriving DecidableEq, Repr

namespace Route

def address : Route → String
  | .page .schema => "/openapi.json"
  | .page .docs => "/docs"
  | .page .docsRedirect => "/docs/oauth2-redirect"
  | .page .redoc => "/redoc"
  | .healthcheck => "/healthcheck"
  | .runScript => "/scripts/run"
  | .evaluate => "/scripts/evaluate"
  | .info => "/info"

def methods : Route → List String
  | .page _ => ["GET", "HEAD"]
  | .healthcheck | .info => ["GET"]
  | .runScript | .evaluate => ["POST"]

def all : List Route :=
  [.schema, .docs, .docsRedirect, .redoc].map .page ++ [.healthcheck, .runScript, .evaluate, .info]

def ofTarget? (target : String) : Option Route :=
  Address.find? address all target

theorem ofTarget?_address (route : Route) : ofTarget? route.address = some route := by
  cases route with
  | page page => cases page <;> decide +kernel
  | _ => decide +kernel

end Route

structure Request where
  method : String
  target : String
  body : Option Document
  environment : String → Option String

inductive Reply where
  | serverError
  | invalid (problems : List Problem)
  | answer (status : Nat) (body : Document)

namespace Reply

def detail (status : Nat) (content : Document) : Reply :=
  .answer status (.object [("detail", content)])

def ofFailure (failure : Failure) : Reply :=
  match failure.label? with
  | some label => detail 422 (.object [("error", .text label), ("message", .text failure.message)])
  | none => .serverError

/-- Each problem is answered with what was found, so all of that needs a written form. -/
def ofProblems (problems : List Problem) : Reply :=
  if problems.all fun problem => problem.found.isWritable then .invalid problems else .serverError

def ofState (state : State) : Reply :=
  let question := ((state.get? Script.questionKey).map Document.ofValue).getD .null
  .answer 200 (.object [("question", question), ("state", Document.ofState state)])

def ofOutcome {σ : Type} (outcome : Script.Outcome σ) : Reply :=
  match outcome.failure? with
  | some failure => ofFailure failure
  | none => ofState outcome.session.state

end Reply

variable {σ : Type} [Dice.Source σ]

/-- A seed makes the dice repeatable; without one the given source is used. -/
def runScript (unseeded : σ) (settings : Settings) (request : RunRequest) : Reply :=
  let script := request.instructions
  match request.seed with
  | none => .ofOutcome (Script.process settings.depthLimit script ⟨request.state, unseeded⟩)
  | some seed =>
      .ofOutcome (Script.process settings.depthLimit script ⟨request.state, Dice.Twister.ofSeed seed⟩)

def evaluateCondition (request : EvaluateRequest) : Reply :=
  match Condition.evaluate request.state request.expression with
  | .error failure => .ofFailure failure
  | .ok result => .answer 200 (.object [("result", .value (.boolean result))])

/-- The pages about the service are answered without their content. -/
def runRoute (unseeded : σ) (request : Request) : Route → Reply
  | .page _ => .answer 200 .null
  | .healthcheck => .answer 200 (.object [("status", .text "ok")])
  | .info => .answer 200 (.object [("name", .text "storyscript"), ("version", .text "0.1.0")])
  | .runScript =>
      match Settings.read request.environment with
      | .error _ => .serverError
      | .ok settings =>
          match RunRequest.read request.body with
          | .error problems => .ofProblems problems
          | .ok run => runScript unseeded settings run
  | .evaluate =>
      match EvaluateRequest.read request.body with
      | .error problems => .ofProblems problems
      | .ok evaluation => evaluateCondition evaluation

/-- Methods are told apart without regard to case. -/
def reply (unseeded : σ) (request : Request) : Reply :=
  match Route.ofTarget? request.target with
  | none => .detail 404 (.text "Not Found")
  | some route =>
      if Text.upper request.method ∈ route.methods then runRoute unseeded request route
      else .detail 405 (.text "Method Not Allowed")

end NarrativeScript.Service
