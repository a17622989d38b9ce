import NarrativeScript.Number.Basic

/-!
# Integers that fit binary64

An integer rounds to a finite binary64 number exactly when its magnitude stays
below the middle between the largest finite number, `(2 ^ 53 - 1) * 2 ^ 971`,
and the next power of two. The middle itself goes to the even neighbour, which
is the power of two, and so is too large.
-/

namespace NarrativeScript.Number

/-- The least magnitude of an integer that is too large to become a binary64 number. -/
def overflowBound : Nat := 2 ^ 1024 - 2 ^ 970

/-- Below an even bound, rounding stays below it up to the middle before it. -/
theorem nearestEven_lt_iff {numerator denominator bound : Nat} (positive : 0 < denominator)
    (even : bound % 2 = 0) :
    nearestEven numerator denominator < bound ↔
      2 * numerator + denominator < 2 * (bound * denominator) := by
  have split := Nat.div_add_mod numerator denominator
  have small := Nat.mod_lt numerator positive
  simp only [nearestEven]
  generalize numerator / denominator = quotient at *
  generalize numerator % denominator = remainder at *
  subst split
  rw [Nat.mul_comm denominator quotient]
  rcases Nat.lt_trichotomy (quotient + 1) bound with below | last | above
  · have room : (quotient + 2) * denominator ≤ bound * denominator :=
      Nat.mul_le_mul_right denominator below
    rw [Nat.add_mul] at room
    have stays : 2 * (quotient * denominator + remainder) + denominator <
        2 * (bound * denominator) := by omega
    simp only [stays, iff_true]
    split
    · omega
    · split <;> omega
  · have top : bound * denominator = quotient * denominator + denominator := by
      rw [← last, Nat.add_mul, Nat.one_mul]
    have odd : quotient % 2 = 1 := by omega
    rw [top]
    split
    · omega
    · split <;> omega
  · have room : bound * denominator ≤ quotient * denominator :=
      Nat.mul_le_mul_right denominator (Nat.le_of_lt_succ above)
    have beyond : ¬ 2 * (quotient * denominator + remainder) + denominator <
        2 * (bound * denominator) := by omega
    simp only [beyond, iff_false]
    split
    · omega
    · split <;> omega

theorem nearestEven_le {numerator denominator bound : Nat} (positive : 0 < denominator)
    (h : numerator ≤ bound * denominator) : nearestEven numerator denominator ≤ bound := by
  have half := (nearestEven_half numerator positive).2
  have scaled : 2 * nearestEven numerator denominator * denominator ≤
      (2 * bound + 1) * denominator := by
    rw [Nat.add_mul, Nat.one_mul, Nat.mul_assoc 2 bound]
    omega
  have rounded := Nat.le_of_mul_le_mul_right scaled positive
  omega

theorem le_nearestEven {numerator denominator bound : Nat} (positive : 0 < denominator)
    (h : bound * denominator ≤ numerator) : bound ≤ nearestEven numerator denominator := by
  have half := (nearestEven_half numerator positive).1
  have scaled : 2 * bound * denominator ≤
      (2 * nearestEven numerator denominator + 1) * denominator := by
    rw [Nat.mul_assoc 2 bound]
    omega
  have rounded := Nat.le_of_mul_le_mul_right scaled positive
  omega

/-! ### The digits that rounding drops -/

theorem lt_of_droppedDigits (numerator : Nat) :
    numerator < 2 ^ 53 * 2 ^ droppedDigits numerator 1 := by
  rw [← Nat.pow_add]
  calc numerator < 2 ^ (numerator.log2 + 1) := Nat.lt_log2_self
    _ ≤ 2 ^ (53 + droppedDigits numerator 1) := by
        apply Nat.pow_le_pow_right (by decide)
        rw [droppedDigits, Nat.div_one]
        omega

theorem le_of_droppedDigits {numerator : Nat} (drops : 0 < droppedDigits numerator 1) :
    2 ^ 52 * 2 ^ droppedDigits numerator 1 ≤ numerator := by
  rw [← Nat.pow_add]
  rw [droppedDigits, Nat.div_one] at drops ⊢
  have filled : numerator ≠ 0 := by
    rintro rfl
    simp at drops
  have same : 52 + (numerator.log2 - 52) = numerator.log2 := by omega
  rw [same]
  exact Nat.log2_self_le filled

/-- With 2045 dropped digits, as in the largest finite numbers, the 53 that stay decide; with fewer
the pattern is small enough, and with more it is not. -/
theorem roundedPattern_lt_patternBound_iff (numerator : Nat) {last : Nat} (most : last = 2045) :
    roundedPattern numerator 1 < patternBound ↔
      2 * numerator + 2 ^ last < 2 * (2 ^ 53 * 2 ^ last) := by
  have upper := lt_of_droppedDigits numerator
  have lower := @le_of_droppedDigits numerator
  rw [roundedPattern, Nat.one_mul, patternBound]
  generalize droppedDigits numerator 1 = dropped at *
  have positive : 0 < 2 ^ dropped := Nat.two_pow_pos dropped
  rcases Nat.lt_trichotomy dropped last with few | same | many
  · have rounded := nearestEven_le positive (Nat.le_of_lt upper)
    have room : 2 * 2 ^ dropped ≤ 2 ^ last := by
      rw [← Nat.pow_succ']
      exact Nat.pow_le_pow_right (by decide) few
    generalize 2 ^ dropped = unit at *
    generalize 2 ^ last = edge at *
    constructor
    · intro _
      omega
    · intro _
      omega
  · subst same
    rw [← nearestEven_lt_iff positive (by decide)]
    omega
  · have reached := lower (by omega)
    have rounded := le_nearestEven positive reached
    have room : 2 * 2 ^ last ≤ 2 ^ dropped := by
      rw [← Nat.pow_succ']
      exact Nat.pow_le_pow_right (by decide) many
    generalize 2 ^ dropped = unit at *
    generalize 2 ^ last = edge at *
    constructor
    · intro _
      omega
    · intro _
      omega

theorem fitsBinary64_integer (value : Int) :
    (Number.integer value).FitsBinary64 ↔
      roundedPattern (unitsPerOne * value.natAbs) 1 < patternBound := by
  show (Binary64.finite? (Binary64.round _ _ _)).isSome = true ↔ _
  rw [Binary64.round]
  split
  · rename_i small
    simp [Binary64.finite?, small]
  · rename_i large
    simp [Binary64.finite?, large]

theorem overflowBound_eq : overflowBound = 2 ^ 54 * 2 ^ 970 - 2 ^ 970 := by decide +kernel

theorem scaled_lt_iff {unit : Nat} (positive : 0 < unit) (magnitude half : Nat) :
    2 * (unit * magnitude) + unit * (2 * half) < 2 * (2 ^ 53 * (unit * (2 * half))) ↔
      magnitude < 2 ^ 54 * half - half := by
  have shared : 2 * (unit * magnitude) + unit * (2 * half) = unit * (2 * magnitude + 2 * half) := by
    rw [Nat.mul_left_comm 2 unit, ← Nat.mul_add]
  have bound : 2 * (2 ^ 53 * (unit * (2 * half))) = unit * (2 * (2 ^ 53 * (2 * half))) := by
    rw [Nat.mul_left_comm (2 ^ 53) unit, Nat.mul_left_comm 2 unit]
  rw [shared, bound, Nat.mul_lt_mul_left positive]
  omega

/-- An integer can become a binary64 number exactly below the bound. -/
theorem fitsBinary64_integer_iff (value : Int) :
    (Number.integer value).FitsBinary64 ↔ value.natAbs < overflowBound := by
  rw [fitsBinary64_integer, unitsPerOne_eq,
    roundedPattern_lt_patternBound_iff _ (rfl : unitExponent + 970 + 1 = 2045),
    two_pow_add_succ unitExponent 970, overflowBound_eq]
  have positive : 0 < 2 ^ unitExponent := Nat.two_pow_pos unitExponent
  generalize 2 ^ unitExponent = unit at positive ⊢
  generalize 2 ^ 970 = half
  exact scaled_lt_iff positive value.natAbs half

end NarrativeScript.Number
