import NarrativeScript.Text.Printable

/-!
# Quoted text

A text that a message shows stands between quote marks. The mark is the single
one, unless the text holds a single mark and no double one. Inside, a backslash
and the mark in use get a backslash, the three common controls have short
escapes, and every other character that is not printable is written by its code
point in hexadecimal: two, four or eight digits, whichever are the fewest that
suffice.
-/

namespace NarrativeScript.Text

def quoteMark (characters : List Char) : Char :=
  if '\'' ∈ characters ∧ '"' ∉ characters then '"' else '\''

theorem quoteMark_eq_or (characters : List Char) :
    quoteMark characters = '\'' ∨ quoteMark characters = '"' := by
  unfold quoteMark
  split <;> simp

def hexDigit (digit : Nat) : Char :=
  if digit < 10 then Char.ofNat ('0'.toNat + digit) else Char.ofNat ('a'.toNat + (digit - 10))

/-- The last `width` hexadecimal digits of a number. -/
def hexDigits : Nat → Nat → List Char
  | 0, _ => []
  | width + 1, number => hexDigits width (number / 16) ++ [hexDigit (number % 16)]

theorem length_hexDigits (width number : Nat) : (hexDigits width number).length = width := by
  induction width generalizing number with
  | zero => rfl
  | succ width ih => simp [hexDigits, ih]

def codeEscape (code : Nat) : List Char :=
  if code < 0x100 then '\\' :: 'x' :: hexDigits 2 code
  else if code < 0x10000 then '\\' :: 'u' :: hexDigits 4 code
  else '\\' :: 'U' :: hexDigits 8 code

def quotedCharacter (mark character : Char) : List Char :=
  if character = '\\' ∨ character = mark then ['\\', character]
  else if character = '\n' then ['\\', 'n']
  else if character = '\r' then ['\\', 'r']
  else if character = '\t' then ['\\', 't']
  else if isPrintable character then [character]
  else codeEscape character.toNat

def quotedCharacters (characters : List Char) : List Char :=
  let mark := quoteMark characters
  mark :: (characters.flatMap (quotedCharacter mark) ++ [mark])

def quoted (text : String) : String :=
  String.ofList (quotedCharacters text.toList)

theorem toList_quoted (text : String) : (quoted text).toList = quotedCharacters text.toList :=
  String.toList_ofList

end NarrativeScript.Text
