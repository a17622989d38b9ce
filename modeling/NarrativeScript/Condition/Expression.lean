import NarrativeScript.Condition.Term

/-!
# Conditions

A condition is cut at its connectives into terms. Every term is evaluated, from
left to right, and a malformed one fails the condition. Each connective then
combines the results of its two neighbours, and the last value decides: the
last pair of terms, or the only term.
-/

namespace NarrativeScript.Condition

inductive Connective where
  | conjunction
  | disjunction
  deriving DecidableEq, Repr

namespace Connective

def spelling : Connective → String
  | .conjunction => "AND"
  | .disjunction => "OR"

def ofSpelling? (token : String) : Option Connective :=
  [conjunction, disjunction].find? fun connective => connective.spelling == token

theorem ofSpelling?_spelling (connective : Connective) :
    ofSpelling? connective.spelling = some connective := by
  cases connective <;> decide

theorem ofSpelling?_eq_some_iff {token : String} {connective : Connective} :
    ofSpelling? token = some connective ↔ connective.spelling = token := by
  constructor
  · intro found
    simpa using List.find?_some found
  · rintro rfl
    exact ofSpelling?_spelling connective

def combine : Connective → Bool → Bool → Bool
  | .conjunction, left, right => left && right
  | .disjunction, left, right => left || right

end Connective

/-- The groups of tokens between connectives; there is one group more than connectives. -/
def splitTerms : List String → List (List String) × List Connective
  | [] => ([[]], [])
  | token :: rest =>
      let later := splitTerms rest
      match Connective.ofSpelling? token with
      | some connective => ([] :: later.1, connective :: later.2)
      | none => (later.1.modifyHead (token :: ·), later.2)

/-- Each connective applied to the results on its two sides. -/
def pairings : List Connective → List Bool → List Bool
  | connective :: connectives, left :: right :: rest =>
      connective.combine left right :: pairings connectives (right :: rest)
  | _, _ => []

def verdict (connectives : List Connective) (results : List Bool) : Bool :=
  (results ++ pairings connectives results).getLast?.getD false

def evaluateTokens (state : State) (tokens : List String) : Except Failure Bool :=
  let (groups, connectives) := splitTerms tokens
  (groups.mapM (evaluateTerm state)).map (verdict connectives)

def evaluate (state : State) (expression : String) : Except Failure Bool :=
  evaluateTokens state (Text.words expression)

end NarrativeScript.Condition
