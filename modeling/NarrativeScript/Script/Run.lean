import NarrativeScript.Script.Perform
import NarrativeScript.Script.Statement

/-!
# Running scripts

The statements of a script are carried out in order until one fails. A branch
of a conditional is a script of its own, run one level deeper; entering it is
refused beyond the limit. The levels left bound the recursion, and `run_eq`
gives the equation of a run without them.
-/

namespace NarrativeScript.Script

variable {σ : Type} [Dice.Source σ]

/-- Checks the type of a statement, then its parameters, then carries it out. -/
def execute (enter : String → Session σ → Outcome σ) (statement : Statement)
    (session : Session σ) : Outcome σ :=
  match Instruction.ofType statement.type with
  | .error failure => .failed failure session
  | .ok instruction =>
      match instruction.check statement.params with
      | .error failure => .failed failure session
      | .ok () => perform enter instruction statement.params session

def runPiece (enter : String → Session σ → Outcome σ) (piece : String)
    (session : Session σ) : Outcome σ :=
  match Statement.parse piece with
  | .error failure => .failed failure session
  | .ok statement => execute enter statement session

def runPieces (enter : String → Session σ → Outcome σ) : List String → Session σ → Outcome σ
  | [], session => .done session
  | piece :: rest, session => (runPiece enter piece session).andThen (runPieces enter rest)

theorem runPieces_append (enter : String → Session σ → Outcome σ) (first second : List String)
    (session : Session σ) :
    runPieces enter (first ++ second) session =
      (runPieces enter first session).andThen (runPieces enter second) := by
  induction first generalizing session with
  | nil => rfl
  | cons piece rest ih =>
      rw [List.cons_append, runPieces, runPieces, Outcome.andThen_assoc]
      exact congrArg _ (funext ih)

def runWithin : Nat → Context → Option String → Session σ → Outcome σ
  | 0, context, script, session =>
      runPieces (fun _ session => .failed context.tooDeep session) (pieces script) session
  | levels + 1, context, script, session =>
      runPieces (fun branch session => runWithin levels context.inner (some branch) session)
        (pieces script) session

def run (context : Context) (script : Option String) (session : Session σ) : Outcome σ :=
  runWithin context.levels context script session

/-- Runs a branch one level deeper. -/
def enter (context : Context) (branch : String) (session : Session σ) : Outcome σ :=
  match context.nested with
  | .error failure => .failed failure session
  | .ok inner => run inner (some branch) session

theorem run_eq (context : Context) (script : Option String) (session : Session σ) :
    run context script session = runPieces (enter context) (pieces script) session := by
  unfold run
  cases found : context.levels with
  | zero =>
      have refused := Context.levels_eq_zero_iff.1 found
      have same : (fun (_ : String) (session : Session σ) => Outcome.failed context.tooDeep session) =
          enter context := by
        funext branch session
        simp [enter, refused]
      rw [runWithin, same]
  | succ levels =>
      obtain ⟨fewer, allowed⟩ := Context.levels_inner found
      have same : (fun (branch : String) (session : Session σ) =>
          runWithin levels context.inner (some branch) session) = enter context := by
        funext branch session
        simp [enter, allowed, run, fewer]
      rw [runWithin, same]

theorem run_empty (context : Context) (session : Session σ) :
    run context (some "") session = .done session := by
  rw [run_eq, pieces_empty, runPieces]

/-- Carries out one statement in a context. -/
def dispatch (context : Context) (statement : Statement) (session : Session σ) : Outcome σ :=
  execute (enter context) statement session

/-- Runs a whole script from the top, under a limit that lies in its range. -/
def process (limit : Int) (script : Option String) (session : Session σ) : Outcome σ :=
  if Depth.InRange limit then run ⟨0, limit⟩ script session
  else .failed (.limitOutOfRange limit) session

end NarrativeScript.Script
