import NarrativeScript.Dice.Source

/-!
# Prepared draws

A source that answers from a list of numbers, each taken modulo the sides of
the die, and with the lowest face when the list is used up.
-/

namespace NarrativeScript.Dice

structure Prepared where
  numbers : List Nat
  deriving DecidableEq, Repr

namespace Prepared

def draw (sides : Nat) (positive : 0 < sides) (prepared : Prepared) : Fin sides × Prepared :=
  (⟨prepared.numbers.headD 0 % sides, Nat.mod_lt _ positive⟩, ⟨prepared.numbers.tail⟩)

instance : Source Prepared := ⟨draw⟩

end Prepared

end NarrativeScript.Dice
