/-!
# Powers of natural numbers

A power of two natural numbers is that of the core library. Beside a library of
algebra it would be the power of a monoid instead, so the choice is made here
once and a power means the same in every module.
-/

namespace NarrativeScript

@[default_instance 20000]
instance (priority := 2000) corePower : Pow Nat Nat := instPowNat

theorem two_pow_add_succ (first second : Nat) :
    2 ^ (first + second + 1) = 2 ^ first * (2 * 2 ^ second) := by
  rw [Nat.pow_succ, Nat.pow_add, Nat.mul_assoc, Nat.mul_comm (2 ^ second)]

end NarrativeScript
