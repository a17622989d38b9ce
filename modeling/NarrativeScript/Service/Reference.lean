/-!
# References

The target of a request is a reference: a scheme, an authority, a path, a query
and a fragment in this order, all of which may be missing. The query and the
fragment are of no use to the service and are left out. A reference with a
scheme and a host is absolute. One that names only some of what stands before
a path is still relative to the service.

The client of the web framework takes targets apart in this way. Neither scripts
nor the service have a say in it.
-/

namespace NarrativeScript.Service

structure Reference where
  scheme : List Char
  authority : List Char
  path : List Char
  deriving DecidableEq, Repr

namespace Reference

def isSchemeCharacter (character : Char) : Bool :=
  character.isAlphanum || character == '+' || character == '-' || character == '.'

/-- A scheme starts with a letter and ends before a colon, or is empty before one. -/
def takeScheme (target : List Char) : List Char × List Char :=
  let name := target.takeWhile isSchemeCharacter
  match target.dropWhile isSchemeCharacter with
  | ':' :: rest => if name.head?.all Char.isAlpha then (name, rest) else ([], target)
  | _ => ([], target)

def endsPath (character : Char) : Bool :=
  character == '?' || character == '#'

def endsAuthority (character : Char) : Bool :=
  character == '/' || endsPath character

def takeAuthority : List Char → List Char × List Char
  | '/' :: '/' :: rest =>
      (rest.takeWhile fun character => !endsAuthority character,
        rest.dropWhile fun character => !endsAuthority character)
  | rest => ([], rest)

def takePath (rest : List Char) : List Char :=
  rest.takeWhile fun character => !endsPath character

def ofTarget (target : List Char) : Reference :=
  let (scheme, afterScheme) := takeScheme target
  let (authority, afterAuthority) := takeAuthority afterScheme
  ⟨scheme, authority, takePath afterAuthority⟩

/-- Host and port stand behind the last at sign of the authority, which ends the user's part. -/
def hostAndPort (reference : Reference) : List Char :=
  (reference.authority.reverse.takeWhile (· != '@')).reverse

def HasHost (reference : Reference) : Prop :=
  reference.hostAndPort.head?.any (· != ':') = true

instance (reference : Reference) : Decidable reference.HasHost :=
  inferInstanceAs (Decidable (_ = _))

/-- An authority whose user, host and port are all empty names nothing. -/
def HasAuthority (reference : Reference) : Prop :=
  reference.authority ∉ [[], [':'], ['@'], ['@', ':']]

instance (reference : Reference) : Decidable reference.HasAuthority :=
  inferInstanceAs (Decidable (_ ∉ _))

def IsAbsolute (reference : Reference) : Prop :=
  reference.scheme ≠ [] ∧ reference.HasHost

instance (reference : Reference) : Decidable reference.IsAbsolute :=
  inferInstanceAs (Decidable (_ ∧ _))

/-- A reference that is a path and nothing else. -/
def IsPath (reference : Reference) : Prop :=
  reference.scheme = [] ∧ ¬reference.HasAuthority

instance (reference : Reference) : Decidable reference.IsPath :=
  inferInstanceAs (Decidable (_ ∧ _))

end NarrativeScript.Service.Reference
