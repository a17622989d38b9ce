import NarrativeScript.Service.Request

/-!
# States as they are shown

A state is answered as a document, field by field, and such a document can be
read as a state again. An infinity or no number has no written form and is shown
as nothing, and nothing is refused as the value of an entry. So a state without
such numbers is read back as it was, and any other state is refused, for exactly
the entries that hold one.
-/

namespace NarrativeScript

namespace State

/-- No entry is undefined. -/
def IsFilled (state : State) : Prop :=
  ∀ key, state.slot? key ≠ some none

theorem isFilled_empty : empty.IsFilled := by
  intro key undefined
  cases undefined

theorem IsFilled.set {state : State} (h : state.IsFilled) (key : String) (value : Value) :
    (state.set key value).IsFilled := by
  intro other undefined
  rw [slot?_set] at undefined
  split at undefined
  · cases undefined
  · exact h other undefined

theorem isFilled_ofList {entries : List (String × Option Value)}
    (h : ∀ entry ∈ entries, entry.2 ≠ none) : (ofList entries).IsFilled := by
  -- The entries are put in one after another, so the induction runs over any filled state.
  suffices kept : ∀ state : State, state.IsFilled → (entries.foldl (fun state entry =>
      State.mk (put entry.1 entry.2 state.entries) (nodup_keys_put state.distinct)) state).IsFilled from
    kept empty isFilled_empty
  induction entries with
  | nil => exact fun _ filled => filled
  | cons first rest ih =>
      intro state filled
      refine ih (fun entry member => h entry (List.mem_cons_of_mem first member)) _ ?_
      intro other undefined
      rw [slot?, lookup_put] at undefined
      split at undefined
      · exact h first List.mem_cons_self (Option.some.inj undefined)
      · exact filled other undefined

theorem mem_entries_of_get? {state : State} {key : String} {value : Value}
    (h : state.get? key = some value) : (key, some value) ∈ state.entries :=
  slot?_eq_some_iff.1 (Option.join_eq_some_iff.1 h)

theorem IsFilled.exists_value {state : State} (filled : state.IsFilled) {key : String}
    {slot : Option Value} (member : (key, slot) ∈ state.entries) :
    ∃ value, slot = some value ∧ state.get? key = some value := by
  have found := slot?_eq_some_iff.2 member
  cases slot with
  | none => exact absurd found (filled key)
  | some value => exact ⟨value, rfl, Option.join_eq_some_iff.2 found⟩

/-- Every value that the state holds has a written form: its numbers are finite. -/
def IsWritable (state : State) : Prop :=
  ∀ key value, state.get? key = some value → Service.Document.writableValue value = true

instance : DecidablePred IsWritable := fun _ => decidable_of_iff _ forall_get?_iff.symm

end State

namespace Service

theorem Document.ofValue_eq (value : Value) :
    ofValue value = if writableValue value then .value value else .null := by
  cases value with
  | number held =>
      cases held with
      | integer held => rfl
      | real held => by_cases finite : held.IsFinite <;> simp [ofValue, writableValue, finite]
  | _ => rfl

/-- How an entry of a state is shown. -/
def Document.ofEntry (entry : String × Option Value) : String × Document :=
  (entry.1, (entry.2.map ofValue).getD .null)

theorem Document.ofEntry_some (key : String) (value : Value) :
    ofEntry (key, some value) = (key, if writableValue value then .value value else .null) :=
  congrArg (Prod.mk key) (ofValue_eq value)

theorem readEntry_ofEntry {key : String} {value : Value}
    (writable : Document.writableValue value = true) :
    readEntry (Document.ofEntry (key, some value)) = .ok (key, some value) := by
  rw [Document.ofEntry_some, if_pos writable]
  rfl

/-- The problem lies in the entry at the key. -/
def Problem.LiesAt (problem : Problem) (key : String) : Prop :=
  ["body", "state", key] <+: problem.location

theorem mem_problems_null {key : String} {problem : Problem}
    (h : problem ∈ (readEntry (key, .null)).problems) :
    problem.found = .null ∧ ∃ choice, problem.location = ["body", "state", key, choice] := by
  simp only [readEntry, Checked.problems, List.map_cons, List.map_nil, List.mem_cons,
    List.not_mem_nil, or_false] at h
  rcases h with rfl | rfl | rfl | rfl <;> exact ⟨rfl, _, rfl⟩

/-- Only an entry without a written form is a problem, and then there is nothing to be found. -/
theorem mem_problems_ofEntry {key : String} {value : Value} {problem : Problem}
    (h : problem ∈ (readEntry (Document.ofEntry (key, some value))).problems) :
    Document.writableValue value = false ∧ problem.found = .null ∧
      ∃ choice, problem.location = ["body", "state", key, choice] := by
  cases writable : Document.writableValue value with
  | true =>
      rw [readEntry_ofEntry writable] at h
      cases h
  | false =>
      rw [Document.ofEntry_some, writable] at h
      exact ⟨rfl, mem_problems_null h⟩

/-- What is read for the entries of a state as they are shown. -/
def readShown (state : State) : List (Checked (String × Option Value)) :=
  (state.toList.map Document.ofEntry).map readEntry

theorem readState_eq_readShown (state : State) {fields : List (String × Document)}
    (shown : fields.lookup "state" = some (Document.ofState state)) :
    readState fields = (Checked.all (readShown state)).map State.ofList := by
  rw [readState, shown]
  rfl

theorem readState_of_isWritable {state : State} (filled : state.IsFilled)
    (writable : state.IsWritable) {fields : List (String × Document)}
    (shown : fields.lookup "state" = some (Document.ofState state)) :
    readState fields = .ok state := by
  have read : readShown state = state.toList.map .ok := by
    rw [readShown, List.map_map]
    refine List.map_congr_left fun ⟨key, slot⟩ member => ?_
    obtain ⟨value, rfl, found⟩ := filled.exists_value member
    exact readEntry_ofEntry (writable key value found)
  rw [readState_eq_readShown state shown, Checked.all_eq_ok_iff.2 read]
  exact congrArg Except.ok state.ofList_toList

/-- The problems that are found in a state as it is shown. -/
def shownProblems (state : State) : List Problem :=
  (readShown state).flatMap Checked.problems

theorem mem_shownProblems {state : State} (filled : state.IsFilled) {problem : Problem}
    (h : problem ∈ shownProblems state) :
    problem.found = .null ∧ ∃ key choice value, problem.location = ["body", "state", key, choice] ∧
      state.get? key = some value ∧ Document.writableValue value = false := by
  obtain ⟨_, shown, reported⟩ := List.mem_flatMap.1 h
  obtain ⟨_, inside, rfl⟩ := List.mem_map.1 shown
  obtain ⟨⟨key, slot⟩, member, rfl⟩ := List.mem_map.1 inside
  obtain ⟨value, rfl, found⟩ := filled.exists_value member
  obtain ⟨unwritable, nothing, choice, location⟩ := mem_problems_ofEntry reported
  exact ⟨nothing, key, choice, value, location, found, unwritable⟩

theorem exists_shownProblem {state : State} {key : String} {value : Value}
    (found : state.get? key = some value) (unwritable : Document.writableValue value = false) :
    ∃ problem ∈ shownProblems state, problem.LiesAt key := by
  have entry : (key, Document.null) ∈ state.toList.map Document.ofEntry := by
    refine List.mem_map.2 ⟨_, State.mem_entries_of_get? found, ?_⟩
    rw [Document.ofEntry_some, unwritable]
    rfl
  refine ⟨⟨.notBoolean, ["body", "state", key, "bool"], .null⟩, ?_, ["bool"], rfl⟩
  exact List.mem_flatMap.2 ⟨_, List.mem_map_of_mem entry, List.mem_cons_self⟩

/-- The problems lie in the entries without a written form, and in no others. -/
theorem liesAt_shownProblems_iff {state : State} (filled : state.IsFilled) {key : String} :
    (∃ problem ∈ shownProblems state, problem.LiesAt key) ↔
      ∃ value, state.get? key = some value ∧ Document.writableValue value = false := by
  constructor
  · rintro ⟨problem, member, lies⟩
    obtain ⟨-, other, choice, value, location, found, unwritable⟩ := mem_shownProblems filled member
    have same : key = other := by
      simpa [Problem.LiesAt, location] using lies
    exact ⟨value, same ▸ found, unwritable⟩
  · rintro ⟨value, found, unwritable⟩
    exact exists_shownProblem found unwritable

theorem readState_of_not_isWritable {state : State} (unwritable : ¬ state.IsWritable)
    {fields : List (String × Document)}
    (shown : fields.lookup "state" = some (Document.ofState state)) :
    readState fields = .error (shownProblems state) := by
  obtain ⟨key, value, found, unwritten⟩ : ∃ key value, state.get? key = some value ∧
      Document.writableValue value = false := by
    simpa [State.IsWritable] using unwritable
  obtain ⟨problem, member, -⟩ := exists_shownProblem found unwritten
  have reported : (Checked.all (readShown state)).problems = shownProblems state :=
    Checked.problems_all (readShown state)
  rw [readState_eq_readShown state shown]
  cases outcome : Checked.all (readShown state) with
  | ok entries =>
      rw [outcome] at reported
      rw [← reported] at member
      cases member
  | error problems =>
      rw [outcome] at reported
      exact congrArg Except.error reported

/-! ### States that requests hold -/

theorem isFilled_of_readState {fields : List (String × Document)} {state : State}
    (h : readState fields = .ok state) : state.IsFilled := by
  unfold readState at h
  split at h
  · cases h
    exact State.isFilled_empty
  · rename_i entries _
    cases read : Checked.all (entries.map readEntry) with
    | error problems =>
        rw [read] at h
        cases h
    | ok values =>
        rw [read] at h
        cases h
        refine State.isFilled_ofList fun entry member undefined => ?_
        have inside : Except.ok entry ∈ entries.map readEntry := by
          rw [Checked.all_eq_ok_iff.1 read]
          exact List.mem_map_of_mem member
        obtain ⟨given, -, accepted⟩ := List.mem_map.1 inside
        unfold readEntry at accepted
        split at accepted
        · cases accepted
          cases undefined
        · cases accepted
  · cases h

theorem isFilled_of_read {body : Option Document} {run : RunRequest}
    (h : RunRequest.read body = .ok run) : run.state.IsFilled := by
  unfold RunRequest.read readFields at h
  split at h
  · cases h
  · rename_i fields
    dsimp only at h
    cases checked : Checked.both (readInstructions fields)
        (Checked.both (readState fields) (readSeed fields)) with
    | error problems =>
        rw [checked] at h
        cases h
    | ok parts =>
        rw [checked] at h
        cases h
        have read := Checked.both_eq_ok_iff.1 (Checked.both_eq_ok_iff.1 checked).2
        exact isFilled_of_readState read.1
  · cases h

end Service

end NarrativeScript
