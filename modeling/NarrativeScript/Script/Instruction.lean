import NarrativeScript.Failure
import NarrativeScript.Number.Basic

/-!
# Instructions and what they require

The eight types of statement, their words, and the checks that the parameters
of each have to pass before it is carried out. Checks are made in order and the
first that fails is the answer.
-/

namespace NarrativeScript.Script

inductive Instruction where
  | goto
  | set
  | copy
  | roll
  | conditional
  | arithmetic (operation : Number.Operation)
  deriving DecidableEq, Repr

/-- A check of the parameters of a statement. -/
inductive Requirement where
  | arity (count : Int)
  | present (token : String)
  | ordered (first later : String)
  deriving DecidableEq, Repr

namespace Requirement

/-- Where both tokens occur, the first occurrence of the later one may not come first. -/
def InOrder (first later : String) (params : List String) : Prop :=
  first ∈ params → later ∈ params → params.idxOf first ≤ params.idxOf later

instance (first later : String) (params : List String) : Decidable (InOrder first later params) :=
  inferInstanceAs (Decidable (_ → _ → _))

def check (word : String) (params : List String) : Requirement → Except Failure Unit
  | .arity count =>
      if (params.length : Int) = count then .ok ()
      else .error (.format (.wrongArity word count params.length) (.words params))
  | .present token =>
      if token ∈ params then .ok ()
      else .error (.format (.missingToken word token) (.words params))
  | .ordered first later =>
      if InOrder first later params then .ok ()
      else .error (.format (.misplacedToken first later) (.words params))

def checkAll (word : String) (params : List String) : List Requirement → Except Failure Unit
  | [] => .ok ()
  | requirement :: rest =>
      match requirement.check word params with
      | .error failure => .error failure
      | .ok () => checkAll word params rest

theorem checkAll_eq_ok_iff {word : String} {params : List String} {requirements : List Requirement} :
    checkAll word params requirements = .ok () ↔
      ∀ requirement ∈ requirements, requirement.check word params = .ok () := by
  induction requirements with
  | nil => simp [checkAll]
  | cons requirement rest ih =>
      cases result : requirement.check word params with
      | error failure => simp [checkAll, result]
      | ok _ => simp [checkAll, result, ih]

end Requirement

def thenToken : String := "THEN"

def elseToken : String := "ELSE"

namespace Instruction

def word : Instruction → String
  | .goto => "GOTO"
  | .set => "SET"
  | .copy => "COPY"
  | .roll => "ROLL"
  | .conditional => "IF"
  | .arithmetic .add => "ADD"
  | .arithmetic .sub => "SUB"
  | .arithmetic .mul => "MUL"

def all : List Instruction :=
  [.goto, .set, .copy, .roll, .conditional, .arithmetic .add, .arithmetic .sub, .arithmetic .mul]

theorem mem_all (instruction : Instruction) : instruction ∈ all := by
  cases instruction with
  | arithmetic operation => cases operation <;> simp [all]
  | _ => simp [all]

/-- Words are told apart by case too. -/
def ofWord? (text : String) : Option Instruction :=
  all.find? fun instruction => instruction.word == text

theorem ofWord?_word (instruction : Instruction) : ofWord? instruction.word = some instruction := by
  cases instruction with
  | arithmetic operation => cases operation <;> decide
  | _ => decide

theorem ofWord?_eq_some_iff {text : String} {instruction : Instruction} :
    ofWord? text = some instruction ↔ instruction.word = text := by
  constructor
  · intro found
    simpa using List.find?_some found
  · rintro rfl
    exact ofWord?_word instruction

def ofType (type : String) : Except Failure Instruction :=
  match ofWord? type with
  | some instruction => .ok instruction
  | none => .error (.unknownType type)

def requirements : Instruction → List Requirement
  | .goto => [.arity 1]
  | .conditional => [.present thenToken, .ordered thenToken elseToken]
  | _ => [.arity 2]

def check (instruction : Instruction) (params : List String) : Except Failure Unit :=
  Requirement.checkAll instruction.word params instruction.requirements

theorem check_conditional_eq_ok_iff {params : List String} :
    conditional.check params = .ok () ↔
      thenToken ∈ params ∧ (elseToken ∈ params → params.idxOf thenToken ≤ params.idxOf elseToken) := by
  simp only [check, Requirement.checkAll_eq_ok_iff, requirements, List.mem_cons, List.not_mem_nil,
    or_false, forall_eq_or_imp, forall_eq, Requirement.check, Requirement.InOrder]
  by_cases present : thenToken ∈ params <;> simp [present]

end Instruction

end NarrativeScript.Script
