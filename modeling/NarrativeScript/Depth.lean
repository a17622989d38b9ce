/-!
# Limits on nesting

How deep conditionals may be nested is limited by a number from one to a fixed
ceiling. A run that is given no limit uses the standard one.
-/

namespace NarrativeScript.Depth

def ceiling : Nat := 128

def standard : Nat := 32

def InRange (limit : Int) : Prop :=
  0 < limit ∧ limit ≤ ceiling

instance : DecidablePred InRange := fun _ => inferInstanceAs (Decidable (_ ∧ _))

theorem standard_inRange : InRange standard := by decide

end NarrativeScript.Depth
