/-!
# Spaces and blanks

Words are separated by blanks, and the ends of a text are trimmed of them. The
blanks are the spaces (the ASCII white space, the next-line character, the
no-break space and the wide and thin spaces, but not the zero-width one) and
the four information separators. Integers in settings and seeds may be
surrounded by spaces only.
-/

namespace NarrativeScript.Text

def isSpace (character : Char) : Bool :=
  let code := character.toNat
  (0x09 ≤ code && code ≤ 0x0D) || code == 0x20 || code == 0x85 || code == 0xA0 ||
    code == 0x1680 || (0x2000 ≤ code && code ≤ 0x200A) || code == 0x2028 || code == 0x2029 ||
    code == 0x202F || code == 0x205F || code == 0x3000

def isBlank (character : Char) : Bool :=
  isSpace character || (0x1C ≤ character.toNat && character.toNat ≤ 0x1F)

theorem not_isBlank_semicolon : isBlank ';' = false := by decide

/-- Both ends lose their longest run of characters of the class. -/
def trimBy (outside : Char → Bool) (characters : List Char) : List Char :=
  ((characters.dropWhile outside).reverse.dropWhile outside).reverse

def trimmed (text : String) : List Char :=
  trimBy isBlank text.toList

def strip (text : String) : String :=
  String.ofList (trimmed text)

end NarrativeScript.Text
