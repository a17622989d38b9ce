import NarrativeScript.Number.Rounding

/-!
# Binary64 numbers

A binary64 number is no number, an infinity, or a signed pattern below the
bound; both zeros are finite. Arithmetic is exact arithmetic on whole units
followed by one rounding.
-/

namespace NarrativeScript.Number

inductive Binary64 where
  | nan
  | infinity (negative : Bool)
  | finite (negative : Bool) (pattern : Fin patternBound)
  deriving DecidableEq, Repr

namespace Binary64

def zero (negative : Bool) : Binary64 :=
  .finite negative ⟨0, patternBound_pos⟩

def IsFinite : Binary64 → Prop
  | .finite _ _ => True
  | _ => False

instance : DecidablePred IsFinite
  | .nan => .isFalse id
  | .infinity _ => .isFalse id
  | .finite _ _ => .isTrue trivial

/-- The number nearest to a signed quotient of units; beyond the bound, an infinity. -/
def round (negative : Bool) (numerator denominator : Nat) : Binary64 :=
  let pattern := roundedPattern numerator denominator
  if h : pattern < patternBound then .finite negative ⟨pattern, h⟩ else .infinity negative

theorem round_ne_nan (negative : Bool) (numerator denominator : Nat) :
    round negative numerator denominator ≠ .nan := by
  simp only [round]
  split <;> simp

def signedUnits (negative : Bool) (pattern : Fin patternBound) : Int :=
  if negative then -(unitsOf pattern : Int) else unitsOf pattern

/-- The number itself, if it is finite. -/
def finite? : Binary64 → Option Binary64
  | .finite negative pattern => some (.finite negative pattern)
  | _ => none

/-- The binary64 number nearest to an integer, if it is finite. -/
def ofInt? (number : Int) : Option Binary64 :=
  (round (number < 0) (unitsPerOne * number.natAbs) 1).finite?

/-- The integer that a finite number without a fraction equals. -/
def toInt? : Binary64 → Option Int
  | .finite negative pattern =>
      let units := signedUnits negative pattern
      if units % unitsPerOne = 0 then some (units / unitsPerOne) else none
  | _ => none

def negate : Binary64 → Binary64
  | .nan => .nan
  | .infinity negative => .infinity !negative
  | .finite negative pattern => .finite (!negative) pattern

/-- A sum that vanishes is the negative zero only when both terms are. -/
def add : Binary64 → Binary64 → Binary64
  | .nan, _ => .nan
  | _, .nan => .nan
  | .infinity first, .infinity second => if first = second then .infinity first else .nan
  | .infinity first, .finite _ _ => .infinity first
  | .finite _ _, .infinity second => .infinity second
  | .finite first left, .finite second right =>
      let total := signedUnits first left + signedUnits second right
      if total = 0 then zero (first && second) else round (total < 0) total.natAbs 1

def sub (left right : Binary64) : Binary64 :=
  left.add right.negate

def mul : Binary64 → Binary64 → Binary64
  | .nan, _ => .nan
  | _, .nan => .nan
  | .infinity first, .infinity second => .infinity (first ^^ second)
  | .infinity first, .finite second right =>
      if right.val = 0 then .nan else .infinity (first ^^ second)
  | .finite first left, .infinity second =>
      if left.val = 0 then .nan else .infinity (first ^^ second)
  | .finite first left, .finite second right =>
      round (first ^^ second) (unitsOf left * unitsOf right) unitsPerOne

/-- The interchange format: sign, exponent and fraction fields in 64 binary digits. -/
def bits : Binary64 → Nat
  | .nan => 2047 * 2 ^ 52 + 2 ^ 51
  | .infinity negative => patternBound + (if negative then 2 ^ 63 else 0)
  | .finite negative pattern => pattern.val + (if negative then 2 ^ 63 else 0)

def ofBits (word : Nat) : Binary64 :=
  let negative := (word / 2 ^ 63) % 2 == 1
  let pattern := word % 2 ^ 63
  if h : pattern < patternBound then .finite negative ⟨pattern, h⟩
  else if pattern = patternBound then .infinity negative
  else .nan

end Binary64

end NarrativeScript.Number
