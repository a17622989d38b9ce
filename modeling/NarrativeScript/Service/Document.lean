import NarrativeScript.State

/-!
# Documents

The bodies of requests and replies: nothing, a script value, a list, or named
fields in order. A number that is not finite has no written form. A state
becomes a document field by field, and such numbers become nothing.
-/

namespace NarrativeScript.Service

inductive Document where
  | null
  | value (content : Value)
  | array (items : List Document)
  | object (fields : List (String × Document))
  deriving Repr

namespace Document

def text (content : String) : Document :=
  .value (.text content)

def writableValue : Value → Bool
  | .number (.real held) => held.IsFinite
  | _ => true

mutual

/-- Whether every number in a document has a written form. -/
def isWritable : Document → Bool
  | .null => true
  | .value content => writableValue content
  | .array items => allWritable items
  | .object fields => fieldsWritable fields

def allWritable : List Document → Bool
  | [] => true
  | first :: rest => isWritable first && allWritable rest

def fieldsWritable : List (String × Document) → Bool
  | [] => true
  | (_, content) :: rest => isWritable content && fieldsWritable rest

end

def ofValue : Value → Document
  | .number (.real held) => if held.IsFinite then .value (.number (.real held)) else .null
  | other => .value other

def ofState (state : State) : Document :=
  .object (state.toList.map fun entry => (entry.1, (entry.2.map ofValue).getD .null))

end Document

end NarrativeScript.Service
