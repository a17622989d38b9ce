import NarrativeScript.Failure

/-!
# Statements

A statement is a type word and at least one parameter, none of the parts empty
as a whole. A script is cut at its semicolons and each piece is read when its
turn comes, so a piece that cannot be read matters only once it is reached.
-/

namespace NarrativeScript.Script

structure Statement where
  type : String
  params : List String
  type_ne_empty : type ≠ ""
  params_ne_nil : params ≠ []
  deriving DecidableEq, Repr

namespace Statement

def make (type : String) (params : List String) : Except Failure Statement :=
  if h : type ≠ "" ∧ params ≠ [] then .ok ⟨type, params, h.1, h.2⟩ else .error .emptyStatement

theorem make_eq_ok_iff {type : String} {params : List String} {statement : Statement} :
    make type params = .ok statement ↔ statement.type = type ∧ statement.params = params := by
  obtain ⟨word, tokens, filled, some⟩ := statement
  unfold make
  split
  · simp only [Except.ok.injEq, Statement.mk.injEq]
    exact ⟨fun h => ⟨h.1.symm, h.2.symm⟩, fun h => ⟨h.1.symm, h.2.symm⟩⟩
  · rename_i missing
    constructor
    · intro impossible
      cases impossible
    · rintro ⟨rfl, rfl⟩
      exact absurd ⟨filled, some⟩ missing

def parse (segment : String) : Except Failure Statement :=
  match Text.words segment with
  | type :: first :: rest => make type (first :: rest)
  | _ => .error (.format .shortStatement (.text segment))

end Statement

/-- The pieces of a script; an absent script and the empty one have none. -/
def pieces : Option String → List String
  | none => []
  | some text => if text = "" then [] else Text.segments text

@[simp] theorem pieces_empty : pieces (some "") = [] := rfl

/-- The second text is cut as it stands, so an empty one adds an empty piece. -/
theorem pieces_join {first : String} (filled : first ≠ "") (second : String) :
    pieces (some (first ++ ";" ++ second)) = pieces (some first) ++ Text.segments second := by
  have joined : first ++ ";" ++ second ≠ "" := by
    intro empty
    have letters := congrArg String.toList empty
    simp at letters
  rw [pieces, pieces, if_neg joined, if_neg filled, Text.segments_append]

/-- The statements up to the first piece that cannot be read, and why it cannot. -/
def readPieces : List String → List Statement × Option Failure
  | [] => ([], none)
  | piece :: rest =>
      match Statement.parse piece with
      | .error failure => ([], some failure)
      | .ok statement =>
          let later := readPieces rest
          (statement :: later.1, later.2)

def statements (script : Option String) : List Statement × Option Failure :=
  readPieces (pieces script)

end NarrativeScript.Script
