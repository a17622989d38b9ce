/-!
# Sources of dice

A source answers a die with one of its faces, counted from zero, and goes on
as a new source. The shape of the answer is all that a script relies on.
-/

namespace NarrativeScript.Dice

class Source (σ : Type) where
  draw : (sides : Nat) → 0 < sides → σ → Fin sides × σ

/-- The number on the face that came up; the faces of a die count from one. -/
def roll {σ : Type} [Source σ] (sides : Nat) (positive : 0 < sides) (source : σ) : Nat × σ :=
  let answer := Source.draw sides positive source
  (answer.1.val + 1, answer.2)

theorem roll_pos {σ : Type} [Source σ] (sides : Nat) (positive : 0 < sides) (source : σ) :
    1 ≤ (roll sides positive source).1 :=
  Nat.succ_le_succ (Nat.zero_le _)

theorem roll_le {σ : Type} [Source σ] (sides : Nat) (positive : 0 < sides) (source : σ) :
    (roll sides positive source).1 ≤ sides :=
  (Source.draw sides positive source).1.isLt

end NarrativeScript.Dice
