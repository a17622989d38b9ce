import NarrativeScript.Number.Numeral
import NarrativeScript.Service.Reference

/-!
# Addresses

The target of a request is brought to the path that an address is compared
with. Dot segments are resolved, and the path of a relative reference starts
with exactly one slash before that. Escapes are read twice, once on the way to
the service and once by it. An address matches its path also with a line feed
at the end, and a path that no address matches is looked at once more without
the slashes at its end.

These are rules of the web framework under the service and of the client that
calls it. The service itself only names its addresses.
-/

namespace NarrativeScript.Service.Address

/-- A segment of one dot is dropped, and one of two dots drops the segment before it too, but
never the empty segment that the path starts with. -/
def resolveSegments (segments : List (List Char)) : List (List Char) :=
  (segments.foldl
    (fun reversed segment =>
      if segment = ['.'] then reversed
      else if segment = ['.', '.'] then (if reversed = [[]] then reversed else reversed.drop 1)
      else segment :: reversed)
    []).reverse

def resolveDots (path : List Char) : List Char :=
  ['/'].intercalate (resolveSegments (path.splitOn '/'))

/-- The path with the dots resolved wherever more than a path is given, and once the path of a
relative reference is joined to the service's own. -/
def rawPath (reference : Reference) : List Char :=
  let path := if reference.IsPath then reference.path else resolveDots reference.path
  if reference.IsAbsolute then path else resolveDots ('/' :: path.dropWhile (· == '/'))

/-- The ASCII character that two hexadecimal digits name. -/
def escaped? (high low : Char) : Option Char :=
  match Number.digitInBase? 16 high, Number.digitInBase? 16 low with
  | some first, some second =>
      if first * 16 + second < 128 then some (Char.ofNat (first * 16 + second)) else none
  | _, _ => none

/-- Reads the escapes of ASCII characters. Other escapes stay, as no address holds one. -/
def readEscapes : List Char → List Char
  | '%' :: high :: low :: rest =>
      match escaped? high low with
      | some character => character :: readEscapes rest
      | none => '%' :: readEscapes (high :: low :: rest)
  | first :: rest => first :: readEscapes rest
  | [] => []

def path (target : String) : List Char :=
  readEscapes (readEscapes (rawPath (.ofTarget target.toList)))

def Matches (address path : List Char) : Prop :=
  path = address ∨ path = address ++ ['\n']

instance (address path : List Char) : Decidable (Matches address path) :=
  inferInstanceAs (Decidable (_ ∨ _))

def withoutLastSlashes (path : List Char) : List Char :=
  (path.reverse.dropWhile (· == '/')).reverse

/-- The first candidate whose address matches the target, or the path without its last slashes. -/
def find? {α : Type} (address : α → String) (candidates : List α) (target : String) : Option α :=
  let matching (path : List Char) : Option α :=
    candidates.find? fun candidate => decide (Matches (address candidate).toList path)
  (matching (path target)).or (matching (withoutLastSlashes (path target)))

end NarrativeScript.Service.Address
