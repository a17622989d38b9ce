import NarrativeScript.Value.Basic

/-!
# Comparing values

Two equalities and four ordering relations. The loose equality compares values
of one kind directly and all others by their numeric readings; the strict one
compares canonical forms and never crosses kinds. An ordering compares two
texts by code point when neither spells a plain decimal, and every other pair
by numeric readings, where no number is neither before nor after anything.
-/

namespace NarrativeScript

namespace Value

def looseEqual : Value → Value → Bool
  | .boolean left, .boolean right => left == right
  | .text left, .text right => left == right
  | left, right => left.numeric.equal right.numeric

/-- Equality within one kind. -/
def sameKindEqual : Value → Value → Bool
  | .boolean left, .boolean right => left == right
  | .number left, .number right => left.equal right
  | .text left, .text right => left == right
  | _, _ => false

def looseEquals : Option Value → Option Value → Bool
  | none, none => true
  | some left, some right => left.looseEqual right
  | _, _ => false

def strictEquals : Option Value → Option Value → Bool
  | none, none => true
  | some left, some right => left.canonical.sameKindEqual right.canonical
  | _, _ => false

theorem looseEqual_of_sameKindEqual {left right : Value} (h : left.sameKindEqual right = true) :
    left.looseEqual right = true := by
  cases left <;> cases right <;> simp_all [sameKindEqual, looseEqual, numeric]

end Value

inductive Relation where
  | less
  | greater
  | lessOrEqual
  | greaterOrEqual
  deriving DecidableEq, Repr

namespace Relation

def symbol : Relation → String
  | .less => "<"
  | .greater => ">"
  | .lessOrEqual => "<="
  | .greaterOrEqual => ">="

def all : List Relation :=
  [.less, .greater, .lessOrEqual, .greaterOrEqual]

def ofSymbol? (text : String) : Option Relation :=
  all.find? fun relation => relation.symbol == text

def flip : Relation → Relation
  | .less => .greater
  | .greater => .less
  | .lessOrEqual => .greaterOrEqual
  | .greaterOrEqual => .lessOrEqual

/-- The four relations of a linear order, told by its strict part. -/
def between {α : Type} (before : α → α → Bool) : Relation → α → α → Bool
  | .less, left, right => before left right
  | .greater, left, right => before right left
  | .lessOrEqual, left, right => !before right left
  | .greaterOrEqual, left, right => !before left right

theorem between_flip {α : Type} (before : α → α → Bool) (relation : Relation) (left right : α) :
    relation.flip.between before left right = relation.between before right left := by
  cases relation <;> rfl

def onTexts (relation : Relation) (left right : String) : Bool :=
  relation.between (fun first second => decide (first < second)) left right

def onNumbers (relation : Relation) (left right : Number) : Bool :=
  Number.related (relation.between fun here there => decide (here.Before there)) left right

def holds (relation : Relation) (left right : Option Value) : Bool :=
  match left.map Value.canonical, right.map Value.canonical with
  | some (.text first), some (.text second) => relation.onTexts first second
  | _, _ => relation.onNumbers (Value.numericReading left) (Value.numericReading right)

end Relation

end NarrativeScript
