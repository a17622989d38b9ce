import NarrativeScript.Number.Binary64
import NarrativeScript.Text.Digit

/-!
# Numerals

The written form of a number: a sign, digits, an optional fraction and an
optional exponent. One reader serves three classes of numeral, each within the
next: integers, plain decimals (a whole part, and a fraction that is not empty
if there is a point), and general numerals. Integers with a base marker and the
word for infinity are read apart.
-/

namespace NarrativeScript.Number

open NarrativeScript.Text

structure Numeral where
  negative : Bool
  whole : List Nat
  fraction : Option (List Nat)
  exponent : Option Int
  deriving DecidableEq, Repr

def takeSign : List Char → Bool × List Char
  | '-' :: rest => (true, rest)
  | '+' :: rest => (false, rest)
  | characters => (false, characters)

/-- The digits at the front of a text, and what follows them. -/
def takeDigits : List Char → List Nat × List Char
  | [] => ([], [])
  | first :: rest =>
      match asciiDigit? first with
      | some digit =>
          let later := takeDigits rest
          (digit :: later.1, later.2)
      | none => ([], first :: rest)

def takeFraction : List Char → Option (List Nat) × List Char
  | '.' :: rest =>
      let later := takeDigits rest
      (some later.1, later.2)
  | characters => (none, characters)

def signed (negative : Bool) (number : Nat) : Int :=
  if negative then -(number : Int) else number

/-- An exponent has a digit and nothing after its digits. -/
def readExponent? : List Char → Option (Option Int)
  | [] => some none
  | letter :: rest =>
      if letter = 'e' ∨ letter = 'E' then
        let (negative, body) := takeSign rest
        match takeDigits body with
        | (first :: digits, []) => some (some (signed negative (ofDigits 10 (first :: digits))))
        | _ => none
      else none

namespace Numeral

def read? (characters : List Char) : Option Numeral :=
  let (negative, body) := takeSign characters
  let (whole, afterWhole) := takeDigits body
  let (fraction, afterFraction) := takeFraction afterWhole
  if whole.isEmpty && (fraction.getD []).isEmpty then none
  else (readExponent? afterFraction).map fun exponent => ⟨negative, whole, fraction, exponent⟩

def IsInteger (numeral : Numeral) : Prop :=
  numeral.whole ≠ [] ∧ numeral.fraction = none ∧ numeral.exponent = none

def IsPlain (numeral : Numeral) : Prop :=
  numeral.whole ≠ [] ∧ numeral.fraction ≠ some [] ∧ numeral.exponent = none

instance : DecidablePred IsInteger := fun _ => inferInstanceAs (Decidable (_ ∧ _ ∧ _))

instance : DecidablePred IsPlain := fun _ => inferInstanceAs (Decidable (_ ∧ _ ∧ _))

theorem IsInteger.isPlain {numeral : Numeral} (h : numeral.IsInteger) : numeral.IsPlain :=
  ⟨h.1, by simp [h.2.1], h.2.2⟩

/-- Integers of more digits are read as binary64 numbers; leading zeros count. -/
def integerDigitLimit : Nat := 4300

def integer? (numeral : Numeral) : Option Int :=
  if numeral.IsInteger ∧ numeral.whole.length ≤ integerDigitLimit then
    some (signed numeral.negative (ofDigits 10 numeral.whole))
  else none

theorem integer?_eq_some_iff {numeral : Numeral} {number : Int} :
    numeral.integer? = some number ↔
      numeral.IsInteger ∧ numeral.whole.length ≤ integerDigitLimit ∧
        signed numeral.negative (ofDigits 10 numeral.whole) = number := by
  unfold integer?
  split <;> rename_i h
  · simp [h]
  · constructor
    · intro absent
      cases absent
    · rintro ⟨shape, short, -⟩
      exact absurd ⟨shape, short⟩ h

/-- The binary64 number nearest to the decimal. With more than 310 places before the point it
is out of range, and with fewer than -330 it vanishes, so that no power of ten grows large. -/
def toBinary64 (numeral : Numeral) : Binary64 :=
  let digits := (numeral.whole ++ numeral.fraction.getD []).dropWhile (· == 0)
  let scale := numeral.exponent.getD 0 - (numeral.fraction.getD []).length
  let places := (digits.length : Int) + scale
  if digits.isEmpty || places < -330 then .zero numeral.negative
  else if 310 < places then .infinity numeral.negative
  else
    .round numeral.negative (unitsPerOne * (ofDigits 10 digits * 10 ^ scale.toNat))
      (10 ^ (-scale).toNat)

theorem toBinary64_ne_nan (numeral : Numeral) : numeral.toBinary64 ≠ .nan := by
  unfold toBinary64
  dsimp only
  split
  · simp [Binary64.zero]
  · split
    · simp
    · exact Binary64.round_ne_nan _ _ _

end Numeral

def digitInBase? (base : Nat) (character : Char) : Option Nat :=
  let digit? :=
    if '0' ≤ character ∧ character ≤ '9' then some (character.toNat - '0'.toNat)
    else if 'a' ≤ character ∧ character ≤ 'f' then some (character.toNat - 'a'.toNat + 10)
    else if 'A' ≤ character ∧ character ≤ 'F' then some (character.toNat - 'A'.toNat + 10)
    else none
  digit?.filter (· < base)

def baseOfMarker? (marker : Char) : Option Nat :=
  if marker = 'x' ∨ marker = 'X' then some 16
  else if marker = 'o' ∨ marker = 'O' then some 8
  else if marker = 'b' ∨ marker = 'B' then some 2
  else none

/-- An integer behind a base marker has no sign and no limit on its digits. -/
def readMarked? : List Char → Option Nat
  | '0' :: marker :: first :: rest =>
      (baseOfMarker? marker).bind fun base =>
        ((first :: rest).mapM (digitInBase? base)).map (ofDigits base)
  | _ => none

def readInfinity? (characters : List Char) : Option Binary64 :=
  if characters = "Infinity".toList ∨ characters = "+Infinity".toList then some (.infinity false)
  else if characters = "-Infinity".toList then some (.infinity true)
  else none

end NarrativeScript.Number
