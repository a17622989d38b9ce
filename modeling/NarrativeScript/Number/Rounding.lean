import NarrativeScript.Power

/-!
# Rounding to the binary64 grid

Non-negative quotients, measured in the smallest positive binary64 number
(`unit`, which is `2 ^ -1074`), are rounded to a pattern: the exponent and
fraction fields of the nearest binary64 number, read as one natural number. A
quotient halfway between two neighbours goes to the even one. Patterns are
ordered as the numbers they stand for, so a carry of the fraction into the
exponent needs no special case.
-/

namespace NarrativeScript.Number

/-- The unit is two to the power of minus this number. -/
def unitExponent : Nat := 1074

@[irreducible] def unitsPerOne : Nat := 2 ^ unitExponent

theorem unitsPerOne_eq : unitsPerOne = 2 ^ unitExponent := by
  unfold unitsPerOne
  rfl

theorem unitsPerOne_pos : 0 < unitsPerOne := by
  rw [unitsPerOne_eq]
  exact Nat.two_pow_pos unitExponent

def nearestEven (numerator denominator : Nat) : Nat :=
  let quotient := numerator / denominator
  let remainder := numerator % denominator
  if 2 * remainder < denominator then quotient
  else if denominator < 2 * remainder then quotient + 1
  else quotient + quotient % 2

/-- The answer differs from the quotient by half a unit at most. -/
theorem nearestEven_half (numerator : Nat) {denominator : Nat} (positive : 0 < denominator) :
    2 * numerator ≤ (2 * nearestEven numerator denominator + 1) * denominator ∧
      2 * nearestEven numerator denominator * denominator ≤ 2 * numerator + denominator := by
  have split := Nat.div_add_mod numerator denominator
  have small := Nat.mod_lt numerator positive
  have parity := Nat.mod_two_eq_zero_or_one (numerator / denominator)
  simp only [nearestEven]
  generalize numerator / denominator = quotient at *
  generalize numerator % denominator = remainder at *
  subst split
  have expand : ∀ number : Nat, (2 * number + 1) * denominator =
      2 * (denominator * number) + denominator := by
    intro number
    rw [Nat.add_mul, Nat.one_mul, Nat.mul_assoc, Nat.mul_comm number]
  have twice : ∀ number : Nat, 2 * number * denominator = 2 * (denominator * number) := by
    intro number
    rw [Nat.mul_assoc, Nat.mul_comm number]
  have next : denominator * (quotient + 1) = denominator * quotient + denominator :=
    Nat.mul_succ _ _
  rw [expand, twice]
  split
  · omega
  · split
    · omega
    · rcases parity with even | odd
      · rw [even, Nat.add_zero]; omega
      · rw [odd]; omega

/-- A quotient of fewer than `2 ^ 53` units keeps its last unit; every further
binary digit of it drops one more digit from the end. -/
def droppedDigits (numerator denominator : Nat) : Nat :=
  (numerator / denominator).log2 - 52

def roundedPattern (numerator denominator : Nat) : Nat :=
  let dropped := droppedDigits numerator denominator
  dropped * 2 ^ 52 + nearestEven numerator (denominator * 2 ^ dropped)

/-- The patterns below this bound stand for finite numbers. -/
def patternBound : Nat := 2047 * 2 ^ 52

theorem patternBound_pos : 0 < patternBound := by decide

/-- How many units a pattern stands for. -/
def unitsOf (pattern : Nat) : Nat :=
  if pattern < 2 ^ 52 then pattern
  else (2 ^ 52 + pattern % 2 ^ 52) * 2 ^ (pattern / 2 ^ 52 - 1)

end NarrativeScript.Number
