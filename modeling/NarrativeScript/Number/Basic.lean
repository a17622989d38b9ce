import NarrativeScript.Number.Numeral

/-!
# Numbers

A number is an exact integer of any size or a binary64 number. Integers stay
integers under arithmetic among themselves; an integer that meets a binary64
number is rounded to one first, which fails when it is too large. Order and
equality are exact in every case, through the position of a number on one line.
-/

namespace NarrativeScript

inductive Number where
  | integer (value : Int)
  | real (value : Number.Binary64)
  deriving DecidableEq, Repr

namespace Number

def nan : Number := .real .nan

def IsNan (number : Number) : Prop :=
  number = nan

instance : DecidablePred IsNan := fun number => inferInstanceAs (Decidable (number = nan))

def isZero : Number → Bool
  | .integer value => value == 0
  | .real (.finite _ pattern) => pattern.val == 0
  | .real _ => false

/-- A place on the number line with both infinities: the tier is -1, 0 or 1 for the negative
infinity, the finite numbers and the positive infinity, and units tell finite numbers apart. -/
structure Position where
  tier : Int
  units : Int
  deriving DecidableEq, Repr

namespace Position

def Before (left right : Position) : Prop :=
  left.tier < right.tier ∨ left.tier = right.tier ∧ left.units < right.units

instance (left right : Position) : Decidable (Before left right) :=
  inferInstanceAs (Decidable (_ ∨ _ ∧ _))

theorem before_irrefl (place : Position) : ¬ Before place place := by
  simp [Before]

theorem before_trans {first second third : Position} (h : Before first second)
    (g : Before second third) : Before first third := by
  unfold Before at *
  omega

theorem before_or_eq_or_before (left right : Position) :
    Before left right ∨ left = right ∨ Before right left := by
  obtain ⟨tier, units⟩ := left
  obtain ⟨otherTier, otherUnits⟩ := right
  simp only [Before, Position.mk.injEq]
  omega

end Position

/-- Only the number that is no number has no position. -/
def position? : Number → Option Position
  | .integer value => some ⟨0, unitsPerOne * value⟩
  | .real .nan => none
  | .real (.infinity negative) => some ⟨if negative then -1 else 1, 0⟩
  | .real (.finite negative pattern) => some ⟨0, Binary64.signedUnits negative pattern⟩

theorem position?_eq_none_iff {number : Number} : number.position? = none ↔ number.IsNan := by
  cases number with
  | integer value => constructor <;> intro same <;> cases same
  | real value =>
      cases value with
      | nan => exact ⟨fun _ => rfl, fun _ => rfl⟩
      | infinity negative => constructor <;> intro same <;> cases same
      | finite negative pattern => constructor <;> intro same <;> cases same

theorem position?_integer_inj {left right : Int} :
    (integer left).position? = (integer right).position? ↔ left = right := by
  have nonzero : (unitsPerOne : Int) ≠ 0 := Int.natCast_ne_zero.2 (Nat.ne_of_gt unitsPerOne_pos)
  constructor
  · intro same
    have units : (unitsPerOne : Int) * left = unitsPerOne * right :=
      congrArg Position.units (Option.some.inj same)
    exact Int.eq_of_mul_eq_mul_left nonzero units
  · rintro rfl
    rfl

/-- Both numbers have a position, and the relation holds of the two. -/
def related (relation : Position → Position → Bool) (left right : Number) : Bool :=
  match left.position?, right.position? with
  | some here, some there => relation here there
  | _, _ => false

def equal (left right : Number) : Bool :=
  related (fun here there => here = there) left right

theorem equal_iff {left right : Number} :
    left.equal right = true ↔ left.position? = right.position? ∧ ¬ left.IsNan := by
  rw [← position?_eq_none_iff, equal, related]
  split
  · rename_i found other
    simp [found, other]
  · rename_i missing
    constructor
    · intro impossible
      cases impossible
    · rintro ⟨same, present⟩
      cases place : left.position? with
      | none => exact absurd place present
      | some here => exact absurd (same.symm.trans place) (missing here here place)

/-! ### Arithmetic -/

inductive Operation where
  | add
  | sub
  | mul
  deriving DecidableEq, Repr

namespace Operation

def onIntegers : Operation → Int → Int → Int
  | .add, left, right => left + right
  | .sub, left, right => left - right
  | .mul, left, right => left * right

def onReals : Operation → Binary64 → Binary64 → Binary64
  | .add, left, right => left.add right
  | .sub, left, right => left.sub right
  | .mul, left, right => left.mul right

/-- Nothing when an integer is too large to meet a binary64 number. -/
def result? (operation : Operation) : Number → Number → Option Number
  | .integer left, .integer right => some (.integer (operation.onIntegers left right))
  | .integer left, .real right =>
      (Binary64.ofInt? left).map fun nearest => .real (operation.onReals nearest right)
  | .real left, .integer right =>
      (Binary64.ofInt? right).map fun nearest => .real (operation.onReals left nearest)
  | .real left, .real right => some (.real (operation.onReals left right))

end Operation

/-- Whether a number can meet a binary64 number in arithmetic. -/
def FitsBinary64 : Number → Prop
  | .integer value => (Binary64.ofInt? value).isSome
  | .real _ => True

instance : DecidablePred FitsBinary64
  | .integer value => inferInstanceAs (Decidable ((Binary64.ofInt? value).isSome = true))
  | .real _ => .isTrue trivial

theorem Operation.result?_isSome {left right : Number} (operation : Operation)
    (fitsLeft : left.FitsBinary64) (fitsRight : right.FitsBinary64) :
    (operation.result? left right).isSome := by
  cases left <;> cases right <;> simp_all [Operation.result?, FitsBinary64]

/-- The integer that a whole text spells: a sign and digits, no more of them than the limit. -/
def integerOfText? (characters : List Char) : Option Int :=
  (Numeral.read? characters).bind Numeral.integer?

/-- The numeric reading of a text without blanks at its ends. The empty text reads as zero. -/
def ofText (characters : List Char) : Number :=
  if characters = [] then .integer 0
  else
    match Numeral.read? characters with
    | some numeral =>
        match numeral.integer? with
        | some value => .integer value
        | none => .real numeral.toBinary64
    | none =>
        match readMarked? characters with
        | some value => .integer value
        | none => .real ((readInfinity? characters).getD .nan)

theorem ofText_of_integerOfText? {characters : List Char} {value : Int}
    (h : integerOfText? characters = some value) : ofText characters = .integer value := by
  obtain ⟨numeral, found, spelled⟩ := Option.bind_eq_some_iff.1 h
  have filled : characters ≠ [] := by
    rintro rfl
    cases found
  simp [ofText, filled, found, spelled]

end Number

end NarrativeScript
