import NarrativeScript.Value.Comparison

/-!
# Comparison operands

The eight spellings of a comparison inside a condition and the relation on
values that each names. Both negated spellings deny the strict equality.
-/

namespace NarrativeScript.Condition

inductive Operand where
  | looseEqual
  | is
  | isNot
  | notEqual
  | ordering (relation : Relation)
  deriving DecidableEq, Repr

namespace Operand

def spelling : Operand → String
  | .looseEqual => "=="
  | .is => "IS"
  | .isNot => "IS_NOT"
  | .notEqual => "!="
  | .ordering relation => relation.symbol

def all : List Operand :=
  [.looseEqual, .is, .isNot, .notEqual] ++ Relation.all.map .ordering

def ofSpelling? (token : String) : Option Operand :=
  all.find? fun operand => operand.spelling == token

theorem ofSpelling?_spelling (operand : Operand) : ofSpelling? operand.spelling = some operand := by
  cases operand with
  | ordering relation => cases relation <;> decide
  | _ => decide

def apply (operand : Operand) (left right : Option Value) : Bool :=
  match operand with
  | .looseEqual => Value.looseEquals left right
  | .is => Value.strictEquals left right
  | .isNot | .notEqual => !Value.strictEquals left right
  | .ordering relation => relation.holds left right

end Operand

end NarrativeScript.Condition
