import NarrativeScript.Number.Numeral

/-!
# Integers with grouped digits

The spelling of integers in settings: an optional sign, then digits, where a
single underscore may stand between two of them. Which characters are digits is
left to the caller. It is the platform's spelling; scripts have a stricter one.
-/

namespace NarrativeScript.Number

def groupedDigits? (digit? : Char → Option Nat) : List Char → Option (List Nat)
  | [] => none
  | [last] => (digit? last).map fun digit => [digit]
  | first :: '_' :: rest =>
      (digit? first).bind fun digit => (groupedDigits? digit? rest).map (digit :: ·)
  | first :: second :: rest =>
      (digit? first).bind fun digit => (groupedDigits? digit? (second :: rest)).map (digit :: ·)

/-- The sign and the digits of an integer, leading zeros among them. -/
def groupedInteger? (digit? : Char → Option Nat) (characters : List Char) :
    Option (Bool × List Nat) :=
  let (negative, body) := takeSign characters
  (groupedDigits? digit? body).map fun digits => (negative, digits)

end NarrativeScript.Number
