import NarrativeScript.Number.Numeral
import NarrativeScript.Text.Blank

/-!
# Seeds

A seed may be given as a number without a fraction or as a text that spells an
integer. The text may have spaces around it, a plus sign, zeros and underscores
in front or behind the minus sign, single underscores inside and a fraction of
zeros; all these are taken off before the plain form is read: a minus sign at
most, then digits, a zero in front only where no digit follows it.

The service only declares that a seed is an integer. What passes for one is a
rule of the web framework, which checks the bodies of requests.
-/

namespace NarrativeScript.Service.Seed

inductive Fault where
  | unreadable
  | tooLarge
  | fractional
  | notFinite
  deriving DecidableEq, Repr

/-- Numbers without a fraction are read below this magnitude. -/
def realBound : Nat := 2 ^ 63

def ofReal (value : Number.Binary64) : Except Fault Int :=
  if value.IsFinite then
    match value.toInt? with
    | none => .error .fractional
    | some seed => if seed.natAbs < realBound then .ok seed else .error .tooLarge
  else .error .notFinite

def isLeadingDigit (character : Char) : Bool :=
  '1' ≤ character && character ≤ '9'

/-- A plus sign goes, unless a minus sign follows it. -/
def withoutPlus : List Char → Option (List Char)
  | '+' :: '-' :: _ => none
  | '+' :: rest => some rest
  | characters => some characters

/-- What follows zeros and underscores; the last of them stays when no number follows. -/
def afterZeros (last : Char) : List Char → Option (List Char)
  | [] => some [last]
  | first :: rest =>
      if first = '0' ∨ first = '_' then afterZeros first rest
      else if first = '.' then some (last :: first :: rest)
      else if first = '-' ∨ isLeadingDigit first then some (first :: rest)
      else none

def unsignedWithoutZeros : List Char → Option (List Char)
  | '0' :: rest => afterZeros '0' rest
  | first :: rest => if isLeadingDigit first then some (first :: rest) else none
  | [] => none

def withoutZeros : List Char → Option (List Char)
  | '-' :: rest => (unsignedWithoutZeros rest).map ('-' :: ·)
  | characters => unsignedWithoutZeros characters

/-- Cuts at the first point that a zero follows, if only zeros follow it. -/
def withoutZeroFraction : List Char → List Char
  | '.' :: '0' :: rest => if rest.all (· == '0') then [] else '.' :: '0' :: rest
  | first :: rest => first :: withoutZeroFraction rest
  | [] => []

def hasDoubleUnderscore : List Char → Bool
  | '_' :: '_' :: _ => true
  | _ :: rest => hasDoubleUnderscore rest
  | [] => false

/-- Underscores go where each stands alone and inside the text. -/
def withoutUnderscores (characters : List Char) : List Char :=
  if characters.head? = some '_' ∨ characters.getLast? = some '_' ∨
      hasDoubleUnderscore characters then characters
  else characters.filter (· != '_')

def plainForm? (content : String) : Option (List Char) :=
  ((withoutPlus (Text.trimBy Text.isSpace content.toList)).bind withoutZeros).map
    fun characters => withoutUnderscores (withoutZeroFraction characters)

/-- The longest plain form, its sign included. -/
def lengthLimit : Nat := 4300

def ofMagnitude (negative : Bool) (characters : List Char) : Except Fault Int :=
  let (digits, rest) := Number.takeDigits characters
  let length := digits.length + (if negative then 1 else 0)
  if digits = [] ∨ (digits.head? = some 0 ∧ 1 < digits.length) then .error .unreadable
  else if lengthLimit < length then .error .tooLarge
  else if rest ≠ [] then .error .unreadable
  else .ok (Number.signed negative (Text.ofDigits 10 digits))

def ofPlain : List Char → Except Fault Int
  | '-' :: rest => ofMagnitude true rest
  | characters => ofMagnitude false characters

def ofText (content : String) : Except Fault Int :=
  match plainForm? content with
  | none => .error .unreadable
  | some characters => ofPlain characters

end NarrativeScript.Service.Seed
