import NarrativeScript.Number.Basic
import NarrativeScript.Text.Blank

/-!
# Script values

A stored value is a boolean, a number or a text. A key that is not stored reads
as undefined, which is the absence of a value. Texts that spell a plain decimal
are read as the number they spell wherever values are told apart, and every
value has a numeric reading, which is no number where there is none.
-/

namespace NarrativeScript

inductive Value where
  | boolean (flag : Bool)
  | number (value : Number)
  | text (content : String)
  deriving DecidableEq, Repr

inductive Kind where
  | undefined
  | boolean
  | number
  | text
  deriving DecidableEq, Repr

def Kind.name : Kind → String
  | .undefined => "undefined"
  | .boolean => "boolean"
  | .number => "number"
  | .text => "string"

namespace Value

def integer (value : Int) : Value :=
  .number (.integer value)

def kind : Option Value → Kind
  | none => .undefined
  | some (.boolean _) => .boolean
  | some (.number _) => .number
  | some (.text _) => .text

/-- A value counts as false when it is the false boolean, a zero, no number or the empty text. -/
def isTrue : Value → Bool
  | .boolean flag => flag
  | .number value => !value.isZero && !decide value.IsNan
  | .text content => content != ""

theorem isTrue_text {content : String} : (text content).isTrue = true ↔ content ≠ "" := by
  simp [isTrue]

theorem isTrue_integer {value : Int} : (integer value).isTrue = true ↔ value ≠ 0 := by
  simp [integer, isTrue, Number.isZero, Number.IsNan, Number.nan]

/-- The integer that a token spells, blanks at its ends aside. -/
def integerLiteral? (token : String) : Option Int :=
  Number.integerOfText? (Text.trimmed token)

def numeric : Value → Number
  | .boolean flag => .integer (if flag then 1 else 0)
  | .number value => value
  | .text content => Number.ofText (Text.trimmed content)

def numericReading : Option Value → Number
  | none => Number.nan
  | some value => value.numeric

theorem numeric_of_integerLiteral? {token : String} {value : Int}
    (h : integerLiteral? token = some value) : (text token).numeric = .integer value :=
  Number.ofText_of_integerOfText? h

/-! ### Canonical form -/

def spellsPlainDecimal (content : String) : Bool :=
  (Number.Numeral.read? (Text.trimmed content)).any fun numeral => numeral.IsPlain

theorem spellsPlainDecimal_iff {content : String} :
    spellsPlainDecimal content = true ↔
      ∃ numeral, Number.Numeral.read? (Text.trimmed content) = some numeral ∧ numeral.IsPlain := by
  simp [spellsPlainDecimal, Option.any_eq_true]

def canonical : Value → Value
  | .text content =>
      if spellsPlainDecimal content then .number (text content).numeric else .text content
  | value => value

theorem canonical_text (content : String) :
    (text content).canonical = .text content ∨
      (text content).canonical = .number (text content).numeric := by
  cases plain : spellsPlainDecimal content <;> simp [canonical, plain]

theorem numeric_canonical (value : Value) : value.canonical.numeric = value.numeric := by
  cases value with
  | boolean flag => rfl
  | number value => rfl
  | text content => cases plain : spellsPlainDecimal content <;> simp [canonical, plain, numeric]

end Value

end NarrativeScript
