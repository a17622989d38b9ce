import NarrativeScript.Depth
import NarrativeScript.Text.Quoted
import NarrativeScript.Text.Words

/-!
# Failures

Why a statement or a condition cannot be carried out. Four causes lie in the
script itself and are answered to its author; a service treats every other
cause as its own failure. The wording of all of them is here.
-/

namespace NarrativeScript

/-- The part of a script that a format failure shows. -/
inductive Excerpt where
  | text (content : String)
  | words (tokens : List String)
  deriving DecidableEq, Repr

namespace Excerpt

def line : Excerpt → String
  | .text content => content
  | .words tokens => Text.unwords tokens

/-- The message, and after a colon the quoted excerpt if there is one. -/
def annotate (message : String) : Option Excerpt → String
  | none => message
  | some excerpt => message ++ ": " ++ Text.quoted excerpt.line

theorem annotate_some (message : String) (excerpt : Excerpt) :
    annotate message (some excerpt) = message ++ ": " ++ Text.quoted excerpt.line := rfl

end Excerpt

inductive Fault where
  | shortStatement
  | malformedTerm
  | termWithoutOperand
  | wrongArity (word : String) (expected : Int) (given : Nat)
  | missingToken (word token : String)
  | misplacedToken (first later : String)
  | falseValue
  | diceSize
  deriving DecidableEq, Repr

def Fault.message : Fault → String
  | .shortStatement => "Statement needs a type and at least one parameter"
  | .malformedTerm => "Malformed conditional term"
  | .termWithoutOperand => "Conditional term has no operand"
  | .wrongArity word expected given => s!"{word} expects {expected} parameter(s), got {given}"
  | .missingToken word token => s!"{word} instruction requires a {token} token"
  | .misplacedToken first later => s!"{later} must come after {first}"
  | .falseValue => "Invalid parameters"
  | .diceSize => "Invalid dice size"

/-- How parameters that were not checked fail to fit an instruction. -/
inductive Misfit where
  | missing
  | notTwo (given : Nat)
  | absent (token : String)
  deriving DecidableEq, Repr

def Misfit.message : Misfit → String
  | .missing => "list index out of range"
  | .notTwo given =>
      if given < 2 then s!"not enough values to unpack (expected 2, got {given})"
      else "too many values to unpack (expected 2)"
  | .absent token => Text.quoted token ++ " is not in list"

inductive Failure where
  | format (fault : Fault) (excerpt : Excerpt)
  | unknownType (word : String)
  | undefinedValue (operand : String)
  | depthExceeded (depth limit : Int)
  | oversizedInteger
  | limitOutOfRange (limit : Int)
  | emptyStatement
  | misfit (cause : Misfit)
  deriving DecidableEq, Repr

namespace Failure

def message : Failure → String
  | .format fault excerpt => Excerpt.annotate fault.message (some excerpt)
  | .unknownType word => s!"Unknown instruction type: {word}"
  | .undefinedValue operand => s!"Undefined value: {operand}"
  | .depthExceeded depth limit => s!"IF nesting depth {depth} exceeds limit {limit}"
  | .oversizedInteger => "int too large to convert to float"
  | .limitOutOfRange limit => s!"max_depth must be between 1 and {Depth.ceiling}, got {limit}"
  | .emptyStatement => "Statement type and parameters must not be empty"
  | .misfit cause => cause.message

/-- The name under which a cause that lies in the script is answered to its author. -/
def label? : Failure → Option String
  | .format _ _ => some "InvalidInstructionFormatException"
  | .unknownType _ => some "InvalidInstructionTypeException"
  | .undefinedValue _ => some "UndefinedValueException"
  | .depthExceeded _ _ => some "InstructionDepthExceededException"
  | .oversizedInteger | .limitOutOfRange _ | .emptyStatement | .misfit _ => none

/-- Whether the cause lies in the script. -/
def IsAuthored (failure : Failure) : Prop :=
  failure.label?.isSome

instance : DecidablePred IsAuthored :=
  fun failure => inferInstanceAs (Decidable (failure.label?.isSome = true))

theorem not_isAuthored_oversizedInteger : ¬ oversizedInteger.IsAuthored := by decide

end Failure

end NarrativeScript
