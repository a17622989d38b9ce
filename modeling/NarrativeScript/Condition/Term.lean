import NarrativeScript.Condition.Operand
import NarrativeScript.Failure
import NarrativeScript.State

/-!
# Terms

A term is one comparison. Its tokens pass through four phases: a left value
comes first, a right value second, operands may stand anywhere after the left
value, and the term can be closed only after the right one. The last operand
decides. A token that spells no operand stands for what the state holds under
it, or for itself where the state holds nothing that counts as true.
-/

namespace NarrativeScript.Condition

inductive Phase where
  | empty
  | leftBound
  | rightBound
  | closed
  deriving DecidableEq, Repr

inductive Event where
  | readValue
  | readOperand
  | endTerm
  deriving DecidableEq, Repr

def Phase.name : Phase → String
  | .empty => "empty"
  | .leftBound => "left_bound"
  | .rightBound => "right_bound"
  | .closed => "closed"

namespace Event

def name : Event → String
  | .readValue => "read_value"
  | .readOperand => "read_operand"
  | .endTerm => "end_term"

def all : List Event :=
  [.readValue, .readOperand, .endTerm]

def ofName? (text : String) : Option Event :=
  all.find? fun event => event.name == text

end Event

namespace Phase

def step : Phase → Event → Option Phase
  | .empty, .readValue => some .leftBound
  | .leftBound, .readValue => some .rightBound
  | .leftBound, .readOperand => some .leftBound
  | .rightBound, .readOperand => some .rightBound
  | .rightBound, .endTerm => some .closed
  | _, _ => none

/-- The message for an event that the phase does not allow. -/
def refusal (phase : Phase) (event : Event) : String :=
  s!"Can't {event.name} when in {phase.name}."

end Phase

/-- What a token stands for as a value. -/
def resolve (state : State) (token : String) : Value :=
  match state.get? token with
  | some value => if value.isTrue then value else .text token
  | none => .text token

/-- What has been read of a term. -/
structure Draft where
  phase : Phase
  left : Option Value
  right : Option Value
  operand : Option Operand
  deriving DecidableEq, Repr

namespace Draft

def start : Draft :=
  ⟨.empty, none, none, none⟩

def read (state : State) (draft : Draft) (token : String) : Option Draft :=
  match Operand.ofSpelling? token with
  | some operand =>
      (draft.phase.step .readOperand).map fun phase =>
        { draft with phase := phase, operand := some operand }
  | none =>
      (draft.phase.step .readValue).map fun phase =>
        if phase = .leftBound then
          { draft with phase := phase, left := some (resolve state token) }
        else { draft with phase := phase, right := some (resolve state token) }

def readAll (state : State) (tokens : List String) : Option Draft :=
  tokens.foldlM (read state) start

end Draft

def evaluateTerm (state : State) (tokens : List String) : Except Failure Bool :=
  let excerpt := Excerpt.text (Text.unwords tokens)
  match Draft.readAll state tokens with
  | none => .error (.format .malformedTerm excerpt)
  | some draft =>
      match draft.phase.step .endTerm with
      | none => .error (.format .malformedTerm excerpt)
      | some _ =>
          match draft.operand with
          | none => .error (.format .termWithoutOperand excerpt)
          | some operand => .ok (operand.apply draft.left draft.right)

end NarrativeScript.Condition
