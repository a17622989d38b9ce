import Mathlib.Data.List.Forall2
import NarrativeScript.Condition.Expression
import NarrativeScript.Proofs.TermLanguage

/-!
# The last pair of a condition decides

A condition is cut at its connectives in one way only. It fails for its first
term that is not a comparison, whatever the state holds. Otherwise its value is
that of its only term, or what the last connective makes of the last two. This
is also the value when each combined result joins the list from which the next
pair is read: a pair never reaches the part that was added, and no connective
runs out of terms.
-/

namespace NarrativeScript.Condition

/-- The tokens are the groups with one connective between neighbours, and no token of a group
spells a connective. -/
inductive Cuts : List String → List (List String) → List Connective → Prop where
  | last {group : List String} (plain : ∀ token ∈ group, Connective.ofSpelling? token = none) :
      Cuts group [group] []
  | next {group rest : List String} {groups : List (List String)} {connectives : List Connective}
      (connective : Connective) (plain : ∀ token ∈ group, Connective.ofSpelling? token = none)
      (later : Cuts rest groups connectives) :
      Cuts (group ++ connective.spelling :: rest) (group :: groups) (connective :: connectives)

namespace Cuts

theorem cons {token : String} {tokens : List String} {groups : List (List String)}
    {connectives : List Connective} (plain : Connective.ofSpelling? token = none)
    (h : Cuts tokens groups connectives) :
    Cuts (token :: tokens) (groups.modifyHead (token :: ·)) connectives := by
  cases h with
  | last rest => exact .last (List.forall_mem_cons.2 ⟨plain, rest⟩)
  | next connective rest later =>
      exact .next connective (List.forall_mem_cons.2 ⟨plain, rest⟩) later

theorem length_eq {tokens : List String} {groups : List (List String)}
    {connectives : List Connective} (h : Cuts tokens groups connectives) :
    groups.length = connectives.length + 1 := by
  induction h with
  | last => rfl
  | next connective plain later ih => rw [List.length_cons, List.length_cons, ih]

end Cuts

theorem cuts_splitTerms (tokens : List String) :
    Cuts tokens (splitTerms tokens).1 (splitTerms tokens).2 := by
  induction tokens with
  | nil => exact .last (by simp)
  | cons token rest ih =>
      unfold splitTerms
      dsimp only
      cases found : Connective.ofSpelling? token with
      | some connective =>
          have cut : Cuts ([] ++ connective.spelling :: rest) ([] :: (splitTerms rest).1)
              (connective :: (splitTerms rest).2) := .next connective (by simp) ih
          rw [← Connective.ofSpelling?_eq_some_iff.1 found]
          exact cut
      | none => exact ih.cons found

theorem splitTerms_append {group : List String}
    (plain : ∀ token ∈ group, Connective.ofSpelling? token = none) (tokens : List String) :
    splitTerms (group ++ tokens) =
      ((splitTerms tokens).1.modifyHead (group ++ ·), (splitTerms tokens).2) := by
  induction group with
  | nil =>
      show splitTerms tokens = ((splitTerms tokens).1.modifyHead id, (splitTerms tokens).2)
      simp
  | cons token rest ih =>
      obtain ⟨here, later⟩ := List.forall_mem_cons.1 plain
      rw [List.cons_append, splitTerms, here, ih later]
      simp [List.modifyHead_modifyHead, Function.comp_def]

theorem splitTerms_of_cuts {tokens : List String} {groups : List (List String)}
    {connectives : List Connective} (h : Cuts tokens groups connectives) :
    splitTerms tokens = (groups, connectives) := by
  induction h with
  | @last group plain =>
      have cut := splitTerms_append plain []
      rw [List.append_nil] at cut
      rw [cut]
      simp [splitTerms]
  | @next group rest groups connectives connective plain later ih =>
      rw [splitTerms_append plain, splitTerms, Connective.ofSpelling?_spelling, ih]
      simp

/-- Tokens are cut in one way only. -/
theorem cuts_iff {tokens : List String} {groups : List (List String)}
    {connectives : List Connective} :
    Cuts tokens groups connectives ↔ splitTerms tokens = (groups, connectives) := by
  constructor
  · exact splitTerms_of_cuts
  · intro cut
    have cuts := cuts_splitTerms tokens
    rw [cut] at cuts
    exact cuts

/-- The failure is that of the first group that is not a comparison. -/
def FailsFirst (groups : List (List String)) (failure : Failure) : Prop :=
  ∃ before group after, groups = before ++ group :: after ∧
    (∀ earlier ∈ before, IsComparison earlier) ∧ ¬ IsComparison group ∧ failure = termFailure group

theorem comparisons_or_failsFirst (groups : List (List String)) :
    (∀ group ∈ groups, IsComparison group) ∨ ∃ failure, FailsFirst groups failure := by
  induction groups with
  | nil => exact .inl (by simp)
  | cons group rest ih =>
      by_cases here : IsComparison group
      · rcases ih with all | ⟨failure, before, other, after, rfl, accepted, failed⟩
        · exact .inl (List.forall_mem_cons.2 ⟨here, all⟩)
        · exact .inr ⟨failure, group :: before, other, after, rfl,
            List.forall_mem_cons.2 ⟨here, accepted⟩, failed⟩
      · exact .inr ⟨_, [], group, rest, rfl, by simp, here, rfl⟩

/-- The truth value of a term that is a comparison. -/
def truth (state : State) (tokens : List String) : Bool :=
  match evaluateTerm state tokens with
  | .ok result => result
  | .error _ => false

theorem IsComparison.evaluateTerm_truth {tokens : List String} (h : IsComparison tokens)
    (state : State) : evaluateTerm state tokens = .ok (truth state tokens) := by
  obtain ⟨result, accepted⟩ := exists_evaluateTerm_eq_ok_iff.2 h
  rw [truth, accepted]

theorem mapM_evaluateTerm_append (state : State) {before : List (List String)}
    (accepted : ∀ group ∈ before, IsComparison group) (groups : List (List String)) :
    (before ++ groups).mapM (evaluateTerm state) =
      (groups.mapM (evaluateTerm state)).map (before.map (truth state) ++ ·) := by
  induction before with
  | nil =>
      show groups.mapM (evaluateTerm state) = (groups.mapM (evaluateTerm state)).map id
      cases groups.mapM (evaluateTerm state) <;> rfl
  | cons group rest ih =>
      obtain ⟨here, later⟩ := List.forall_mem_cons.1 accepted
      rw [List.cons_append, List.mapM_cons, here.evaluateTerm_truth state, ih later]
      cases groups.mapM (evaluateTerm state) <;> rfl

theorem mapM_evaluateTerm (state : State) {groups : List (List String)}
    (accepted : ∀ group ∈ groups, IsComparison group) :
    groups.mapM (evaluateTerm state) = .ok (groups.map (truth state)) := by
  have read := mapM_evaluateTerm_append state accepted []
  rw [List.append_nil] at read
  rw [read]
  exact congrArg Except.ok (List.append_nil _)

theorem FailsFirst.mapM_evaluateTerm {groups : List (List String)} {failure : Failure}
    (h : FailsFirst groups failure) (state : State) :
    groups.mapM (evaluateTerm state) = .error failure := by
  obtain ⟨before, group, after, rfl, accepted, other, rfl⟩ := h
  rw [mapM_evaluateTerm_append state accepted, List.mapM_cons,
    evaluateTerm_of_not_isComparison state other]
  rfl

/-! ### The last pair -/

theorem pairings_append_pair {before : List Bool} {earlier : List Connective}
    (even : before.length = earlier.length) (connective : Connective) (left right : Bool) :
    pairings (earlier ++ [connective]) (before ++ [left, right]) =
      pairings earlier (before ++ [left]) ++ [connective.combine left right] := by
  induction earlier generalizing before with
  | nil =>
      rw [List.length_eq_zero_iff.1 even]
      rfl
  | cons other earlier ih =>
      cases before with
      | nil => cases even
      | cons first before =>
          have later := ih (Nat.succ.inj even)
          cases before with
          | nil =>
              rw [List.nil_append, List.nil_append] at later
              simp [pairings, later]
          | cons second before =>
              rw [List.cons_append, List.cons_append] at later
              simp [pairings, later]

theorem verdict_last_pair {before : List Bool} {earlier : List Connective}
    (even : before.length = earlier.length) (connective : Connective) (left right : Bool) :
    verdict (earlier ++ [connective]) (before ++ [left, right]) =
      connective.combine left right := by
  rw [verdict, pairings_append_pair even, ← List.append_assoc, List.getLast?_concat]
  rfl

/-- The value of the only term, or what the last connective makes of the last two: AND asks for both
of them, OR for one. No other term is looked at. -/
inductive Decides (state : State) : List (List String) → List Connective → Bool → Prop where
  | only {group : List String} {result : Bool} (value : evaluateTerm state group = .ok result) :
      Decides state [group] [] result
  | both {before : List (List String)} {left right : List String} {earlier : List Connective}
      {first second : Bool} (here : evaluateTerm state left = .ok first)
      (there : evaluateTerm state right = .ok second) :
      Decides state (before ++ [left, right]) (earlier ++ [.conjunction]) (first && second)
  | either {before : List (List String)} {left right : List String} {earlier : List Connective}
      {first second : Bool} (here : evaluateTerm state left = .ok first)
      (there : evaluateTerm state right = .ok second) :
      Decides state (before ++ [left, right]) (earlier ++ [.disjunction]) (first || second)

theorem exists_append_pair {α : Type} {items : List α} (many : 2 ≤ items.length) :
    ∃ before left right, items = before ++ [left, right] := by
  rcases List.eq_nil_or_concat items with rfl | ⟨rest, right, rfl⟩
  · cases many
  · rcases List.eq_nil_or_concat rest with rfl | ⟨before, left, rfl⟩
    · simp at many
    · exact ⟨before, left, right, by simp⟩

theorem decides_verdict (state : State) {groups : List (List String)}
    {connectives : List Connective} (lengths : groups.length = connectives.length + 1)
    (accepted : ∀ group ∈ groups, IsComparison group) :
    Decides state groups connectives (verdict connectives (groups.map (truth state))) := by
  rcases List.eq_nil_or_concat connectives with rfl | ⟨earlier, connective, rfl⟩
  · obtain ⟨group, rfl⟩ := List.length_eq_one_iff.1 lengths
    exact .only ((accepted group (by simp)).evaluateTerm_truth state)
  · rw [List.length_concat] at lengths
    have many : 2 ≤ groups.length := by omega
    obtain ⟨before, left, right, rfl⟩ := exists_append_pair many
    have even : (before.map (truth state)).length = earlier.length := by
      simp at lengths ⊢
      omega
    rw [List.concat_eq_append, List.map_append, List.map_cons, List.map_cons, List.map_nil,
      verdict_last_pair even]
    have here := (accepted left (by simp)).evaluateTerm_truth state
    have there := (accepted right (by simp)).evaluateTerm_truth state
    cases connective with
    | conjunction => exact .both here there
    | disjunction => exact .either here there

theorem verdict_of_pair {state : State} {before : List (List String)} {left right : List String}
    {earlier : List Connective} {connective : Connective} {first second : Bool}
    (here : evaluateTerm state left = .ok first) (there : evaluateTerm state right = .ok second)
    (lengths : (before ++ [left, right]).length = (earlier ++ [connective]).length + 1) :
    verdict (earlier ++ [connective]) ((before ++ [left, right]).map (truth state)) =
      connective.combine first second := by
  have even : (before.map (truth state)).length = earlier.length := by
    simp at lengths ⊢
    omega
  have pair : [left, right].map (truth state) = [first, second] := by simp [truth, here, there]
  rw [List.map_append, pair, verdict_last_pair even]

theorem Decides.eq_verdict {state : State} {groups : List (List String)}
    {connectives : List Connective} {result : Bool} (h : Decides state groups connectives result)
    (lengths : groups.length = connectives.length + 1) :
    result = verdict connectives (groups.map (truth state)) := by
  cases h with
  | only value => simp [truth, value, verdict, pairings]
  | both here there => exact (verdict_of_pair here there lengths).symm
  | either here there => exact (verdict_of_pair here there lengths).symm

theorem evaluateTokens_of_cuts (state : State) {tokens : List String}
    {groups : List (List String)} {connectives : List Connective}
    (h : Cuts tokens groups connectives) :
    evaluateTokens state tokens =
      (groups.mapM (evaluateTerm state)).map (verdict connectives) := by
  rw [evaluateTokens, splitTerms_of_cuts h]

section Cut

variable {state : State} {tokens : List String} {groups : List (List String)}
  {connectives : List Connective}

theorem evaluateTokens_of_comparisons (h : Cuts tokens groups connectives)
    (accepted : ∀ group ∈ groups, IsComparison group) :
    evaluateTokens state tokens = .ok (verdict connectives (groups.map (truth state))) := by
  rw [evaluateTokens_of_cuts state h, mapM_evaluateTerm state accepted]
  rfl

theorem evaluateTokens_of_failsFirst (h : Cuts tokens groups connectives) {failure : Failure}
    (failed : FailsFirst groups failure) : evaluateTokens state tokens = .error failure := by
  rw [evaluateTokens_of_cuts state h, failed.mapM_evaluateTerm state]
  rfl

theorem evaluateTokens_eq_error_iff (h : Cuts tokens groups connectives) {failure : Failure} :
    evaluateTokens state tokens = .error failure ↔ FailsFirst groups failure := by
  constructor
  · intro failed
    rcases comparisons_or_failsFirst groups with accepted | ⟨cause, first⟩
    · rw [evaluateTokens_of_comparisons h accepted] at failed
      cases failed
    · rw [evaluateTokens_of_failsFirst h first] at failed
      cases failed
      exact first
  · exact evaluateTokens_of_failsFirst h

theorem evaluateTokens_eq_ok_iff (h : Cuts tokens groups connectives) {result : Bool} :
    evaluateTokens state tokens = .ok result ↔
      (∀ group ∈ groups, IsComparison group) ∧ Decides state groups connectives result := by
  constructor
  · intro evaluated
    rcases comparisons_or_failsFirst groups with accepted | ⟨cause, first⟩
    · rw [evaluateTokens_of_comparisons h accepted] at evaluated
      cases evaluated
      exact ⟨accepted, decides_verdict state h.length_eq accepted⟩
    · rw [evaluateTokens_of_failsFirst h first] at evaluated
      cases evaluated
  · rintro ⟨accepted, decided⟩
    rw [evaluateTokens_of_comparisons h accepted, decided.eq_verdict h.length_eq]

end Cut

/-- Every term of the condition is a comparison. -/
def IsWellFormed (tokens : List String) : Prop :=
  ∀ group ∈ (splitTerms tokens).1, IsComparison group

instance : DecidablePred IsWellFormed :=
  fun tokens => List.decidableBAll IsComparison (splitTerms tokens).1

theorem exists_evaluateTokens_eq_ok_iff (state : State) {tokens : List String} :
    (∃ result, evaluateTokens state tokens = .ok result) ↔ IsWellFormed tokens := by
  have cut := cuts_splitTerms tokens
  constructor
  · rintro ⟨result, evaluated⟩
    exact ((evaluateTokens_eq_ok_iff cut).1 evaluated).1
  · intro accepted
    exact ⟨_, evaluateTokens_of_comparisons cut accepted⟩

/-! ### Combining in place -/

/-- Combines pair after pair, and adds each value to the end of the list that the pairs are read
from. There is nothing to combine where the list has no second result left. -/
def combineInPlace (index : Nat) : List Connective → List Bool → Option (List Bool)
  | [], results => some results
  | connective :: rest, results =>
      if h : index + 1 < results.length then
        combineInPlace (index + 1) rest
          (results ++ [connective.combine results[index] results[index + 1]])
      else none

/-- The pairs lie among the results of the terms, in front of the `added` values: so many results
are left at an index as there are connectives, and one more. -/
theorem combineInPlace_append {index : Nat} {connectives : List Connective} {results : List Bool}
    (left : results.length = index + connectives.length + 1) (added : List Bool) :
    combineInPlace index connectives (results ++ added) =
      some (results ++ added ++ pairings connectives (results.drop index)) := by
  induction connectives generalizing index added with
  | nil => simp [combineInPlace, pairings]
  | cons connective rest ih =>
      rw [List.length_cons] at left
      have second : index + 1 < results.length := by omega
      have first : index < results.length := by omega
      have inside : index + 1 < (results ++ added).length := by
        rw [List.length_append]
        omega
      have remaining : results.drop index =
          results[index] :: results[index + 1] :: results.drop (index + 2) := by
        rw [List.drop_eq_getElem_cons first, List.drop_eq_getElem_cons second]
      have next : results.drop (index + 1) = results[index + 1] :: results.drop (index + 2) :=
        List.drop_eq_getElem_cons second
      rw [combineInPlace, dif_pos inside, List.getElem_append_left first,
        List.getElem_append_left second, List.append_assoc, ih (by omega), remaining, pairings,
        next]
      simp

/-- Why a condition that is combined in place has no value. -/
inductive Interruption where
  | failedTerm (failure : Failure)
  | connectiveWithoutTerm (expression : String)
  | noResult
  deriving DecidableEq, Repr

/-- Evaluates every term, combines the results in place, and takes the last value of the list. -/
def evaluateInPlace (state : State) (expression : String) : Except Interruption Bool :=
  let (groups, connectives) := splitTerms (Text.words expression)
  match groups.mapM (evaluateTerm state) with
  | .error failure => .error (.failedTerm failure)
  | .ok results =>
      match combineInPlace 0 connectives results with
      | none => .error (.connectiveWithoutTerm expression)
      | some combined =>
          match combined.getLast? with
          | none => .error .noResult
          | some result => .ok result

/-- The list that is combined in place ends in the value of the condition. -/
theorem combineInPlace_getLast? {connectives : List Connective} {results : List Bool}
    (lengths : results.length = connectives.length + 1) :
    ∃ combined, combineInPlace 0 connectives results = some combined ∧
      combined.getLast? = some (verdict connectives results) := by
  have left : results.length = 0 + connectives.length + 1 := by omega
  have combined := combineInPlace_append left []
  rw [List.append_nil, List.drop_zero] at combined
  refine ⟨_, combined, ?_⟩
  rw [verdict]
  cases last : (results ++ pairings connectives results).getLast? with
  | none =>
      rw [List.getLast?_eq_none_iff, List.append_eq_nil_iff] at last
      rw [last.1] at lengths
      cases lengths
  | some result => rfl

theorem evaluateInPlace_eq (state : State) (expression : String) :
    evaluateInPlace state expression = (evaluate state expression).mapError .failedTerm := by
  have cut := cuts_splitTerms (Text.words expression)
  unfold evaluateInPlace evaluate
  dsimp only
  rcases comparisons_or_failsFirst (splitTerms (Text.words expression)).1 with
    accepted | ⟨failure, first⟩
  · have lengths := cut.length_eq
    rw [← List.length_map (truth state)] at lengths
    obtain ⟨combined, inPlace, last⟩ := combineInPlace_getLast? lengths
    rw [mapM_evaluateTerm state accepted, evaluateTokens_of_comparisons cut accepted]
    dsimp only
    rw [inPlace]
    dsimp only
    rw [last]
    rfl
  · rw [first.mapM_evaluateTerm state, evaluateTokens_of_failsFirst cut first]
    rfl

/-- A condition is cut at its connectives in one way. It fails exactly for its first term that is no
comparison, in every state alike, and otherwise has the value of its only term or of its last pair.
Combined in place it comes to the same, so no connective is ever without a term. -/
theorem condition_is_decided_by_last_pair (expression : String) :
    ∃ groups connectives,
      (∀ others marks, Cuts (Text.words expression) others marks ↔
        others = groups ∧ marks = connectives) ∧
      ∀ state : State,
        (∀ failure, evaluate state expression = .error failure ↔ FailsFirst groups failure) ∧
        (∀ result, evaluate state expression = .ok result ↔
          (∀ group ∈ groups, IsComparison group) ∧ Decides state groups connectives result) ∧
        (∀ (other : State) (failure : Failure), evaluate other expression = .error failure ↔
          evaluate state expression = .error failure) ∧
        evaluateInPlace state expression =
          (evaluate state expression).mapError .failedTerm := by
  obtain ⟨groups, connectives, cut⟩ : ∃ groups connectives,
      Cuts (Text.words expression) groups connectives := ⟨_, _, cuts_splitTerms _⟩
  have fails : ∀ (state : State) (failure : Failure),
      evaluate state expression = .error failure ↔ FailsFirst groups failure :=
    fun state failure => evaluateTokens_eq_error_iff cut
  refine ⟨groups, connectives, fun others marks => ?_, fun state => ⟨fails state, fun result => ?_,
    fun other failure => ?_, evaluateInPlace_eq state expression⟩⟩
  · rw [cuts_iff, splitTerms_of_cuts cut, Prod.mk.injEq, eq_comm (a := groups),
      eq_comm (a := connectives)]
  · exact evaluateTokens_eq_ok_iff cut
  · rw [fails, fails]

/-- The first term is false and the first connective asks for it, but only the last pair counts. -/
example :
    evaluate (.ofList [("b", some (.integer 2))]) "a IS 1 AND b IS 2 OR c IS 3" = .ok true := by
  decide +kernel

end NarrativeScript.Condition
