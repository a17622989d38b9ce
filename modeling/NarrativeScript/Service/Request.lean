import NarrativeScript.Service.Document
import NarrativeScript.Service.Seed

/-!
# Request bodies

A body is checked as a whole: every field that does not fit is reported, in the
order of the fields, with the kind of problem, where it lies and what was found
there. Only a body without problems is read. Fields that no request knows are
passed over.

The service declares the fields with their bounds; the kinds of problem and the
order of their report are those of the web framework.
-/

namespace NarrativeScript.Service

inductive ProblemKind where
  | missing
  | notAnObject
  | notText
  | textTooShort
  | textTooLong
  | stateNotAnObject
  | notBoolean
  | notInteger
  | notReal
  | seed (fault : Seed.Fault)
  deriving DecidableEq, Repr

/-- The name under which a problem is reported. -/
def ProblemKind.name : ProblemKind → String
  | .missing => "missing"
  | .notAnObject => "model_attributes_type"
  | .notText => "string_type"
  | .textTooShort => "string_too_short"
  | .textTooLong => "string_too_long"
  | .stateNotAnObject => "dict_type"
  | .notBoolean => "bool_type"
  | .notInteger => "int_type"
  | .notReal => "float_type"
  | .seed .fractional => "int_from_float"
  | .seed .unreadable => "int_parsing"
  | .seed .tooLarge => "int_parsing_size"
  | .seed .notFinite => "finite_number"

structure Problem where
  kind : ProblemKind
  location : List String
  found : Document
  deriving Repr

abbrev Checked (α : Type) : Type := Except (List Problem) α

namespace Checked

variable {α β : Type}

def problem (kind : ProblemKind) (location : List String) (found : Document) : Checked α :=
  .error [⟨kind, location, found⟩]

def problems : Checked α → List Problem
  | .ok _ => []
  | .error found => found

/-- Both parts are read, or the problems of both are reported. -/
def both (first : Checked α) (second : Checked β) : Checked (α × β) :=
  match first, second with
  | .ok left, .ok right => .ok (left, right)
  | first, second => .error (first.problems ++ second.problems)

theorem both_eq_ok_iff {first : Checked α} {second : Checked β} {pair : α × β} :
    both first second = .ok pair ↔ first = .ok pair.1 ∧ second = .ok pair.2 := by
  obtain ⟨left, right⟩ := pair
  cases first <;> cases second <;> simp [both]

def all : List (Checked α) → Checked (List α)
  | [] => .ok []
  | first :: rest => (both first (all rest)).map fun pair => pair.1 :: pair.2

theorem all_eq_ok_iff {items : List (Checked α)} {values : List α} :
    all items = .ok values ↔ items = values.map .ok := by
  induction items generalizing values with
  | nil => cases values <;> simp [all]
  | cons first rest ih =>
      cases values with
      | nil => cases first <;> cases found : all rest <;> simp [all, both, Except.map, found]
      | cons value values =>
          rw [List.map_cons, List.cons.injEq, ← ih]
          cases first <;> cases found : all rest <;> simp [all, both, Except.map, found]

/-- Every problem is reported, in order. -/
theorem problems_all (items : List (Checked α)) : (all items).problems = items.flatMap problems := by
  induction items with
  | nil => rfl
  | cons first rest ih =>
      rw [List.flatMap_cons, ← ih, all]
      cases first <;> cases all rest <;> simp [both, problems, Except.map]

end Checked

def longestText : Nat := 4000

def checkLength (location : List String) (shortest : Nat) (content : String) : Checked String :=
  if content.length < shortest then .problem .textTooShort location (.text content)
  else if longestText < content.length then .problem .textTooLong location (.text content)
  else .ok content

def readInstructions (fields : List (String × Document)) : Checked (Option String) :=
  let location := ["body", "instructions"]
  match fields.lookup "instructions" with
  | none | some .null => .ok none
  | some (.value (.text content)) => (checkLength location 0 content).map some
  | some found => .problem .notText location found

/-- An absent expression is reported with all the fields of the body. -/
def readExpression (fields : List (String × Document)) : Checked String :=
  let location := ["body", "expression"]
  match fields.lookup "expression" with
  | none => .problem .missing location (.object fields)
  | some (.value (.text content)) => checkLength location 1 content
  | some found => .problem .notText location found

def readEntry (entry : String × Document) : Checked (String × Option Value) :=
  match entry.2 with
  | .value content => .ok (entry.1, some content)
  | found =>
      .error ([(ProblemKind.notBoolean, "bool"), (.notInteger, "int"), (.notReal, "float"),
        (.notText, "str")].map fun (kind, choice) =>
          ⟨kind, ["body", "state", entry.1, choice], found⟩)

def readState (fields : List (String × Document)) : Checked State :=
  match fields.lookup "state" with
  | none => .ok .empty
  | some (.object entries) => (Checked.all (entries.map readEntry)).map State.ofList
  | some found => .problem .stateNotAnObject ["body", "state"] found

def readSeed (fields : List (String × Document)) : Checked (Option Int) :=
  let location := ["body", "seed"]
  let settle (found : Document) (reading : Except Seed.Fault Int) : Checked (Option Int) :=
    match reading with
    | .ok seed => .ok (some seed)
    | .error fault => .problem (.seed fault) location found
  match fields.lookup "seed" with
  | none | some .null => .ok none
  | some (.value (.boolean flag)) => .ok (some (if flag then 1 else 0))
  | some (.value (.number (.integer held))) => .ok (some held)
  | some (.value (.number (.real held))) =>
      settle (.value (.number (.real held))) (Seed.ofReal held)
  | some (.value (.text content)) => settle (.text content) (Seed.ofText content)
  | some found => .problem .notInteger location found

/-! ### Bodies -/

structure RunRequest where
  instructions : Option String
  state : State
  seed : Option Int

structure EvaluateRequest where
  expression : String
  state : State

def readFields {α : Type} (read : List (String × Document) → Checked α) :
    Option Document → Checked α
  | none => .problem .missing ["body"] .null
  | some (.object fields) => read fields
  | some found => .problem .notAnObject ["body"] found

def RunRequest.read : Option Document → Checked RunRequest :=
  readFields fun fields =>
    (Checked.both (readInstructions fields) (Checked.both (readState fields) (readSeed fields))).map
      fun (instructions, state, seed) => ⟨instructions, state, seed⟩

def EvaluateRequest.read : Option Document → Checked EvaluateRequest :=
  readFields fun fields =>
    (Checked.both (readExpression fields) (readState fields)).map
      fun (expression, state) => ⟨expression, state⟩

end NarrativeScript.Service
