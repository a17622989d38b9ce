import NarrativeScript.Value.Basic

/-!
# The state of a story

A bag of entries under distinct keys. An entry is a value or undefined, and an
undefined entry reads as an absent one. The entry at a key is the only view of
a state: writing a value at a key changes that entry and no other.
-/

namespace NarrativeScript

structure State where
  entries : List (String × Option Value)
  distinct : (entries.map Prod.fst).Nodup
  deriving DecidableEq, Repr

namespace State

def empty : State :=
  ⟨[], List.nodup_nil⟩

/-- The entry at a key, if there is one. -/
def slot? (state : State) (key : String) : Option (Option Value) :=
  state.entries.lookup key

/-- The value at a key. -/
def get? (state : State) (key : String) : Option Value :=
  (state.slot? key).join

theorem slot?_eq_some_iff {state : State} {key : String} {slot : Option Value} :
    state.slot? key = some slot ↔ (key, slot) ∈ state.entries := by
  obtain ⟨entries, distinct⟩ := state
  show entries.lookup key = some slot ↔ (key, slot) ∈ entries
  induction entries with
  | nil => simp
  | cons first rest ih =>
      obtain ⟨name, held⟩ := first
      rw [List.map_cons, List.nodup_cons] at distinct
      by_cases here : key = name
      · subst here
        have absent : (key, slot) ∉ rest := fun member =>
          distinct.1 (List.mem_map.2 ⟨(key, slot), member, rfl⟩)
        simp [absent, eq_comm]
      · rw [List.lookup_cons, beq_eq_false_iff_ne.2 here]
        simp [ih distinct.2, here]

/-- Replaces the entry at the key, or adds one at the end. -/
def put (key : String) (value : Option Value) :
    List (String × Option Value) → List (String × Option Value)
  | [] => [(key, value)]
  | first :: rest => if first.1 = key then (key, value) :: rest else first :: put key value rest

theorem mem_keys_put {key other : String} {value : Option Value}
    {entries : List (String × Option Value)} :
    other ∈ (put key value entries).map Prod.fst ↔ other = key ∨ other ∈ entries.map Prod.fst := by
  induction entries with
  | nil => simp [put]
  | cons first rest ih =>
      unfold put
      split
      · rename_i same
        simp [same]
      · simp only [List.map_cons, List.mem_cons, ih]
        constructor
        · rintro (here | there | later)
          · exact .inr (.inl here)
          · exact .inl there
          · exact .inr (.inr later)
        · rintro (there | here | later)
          · exact .inr (.inl there)
          · exact .inl here
          · exact .inr (.inr later)

theorem nodup_keys_put {key : String} {value : Option Value}
    {entries : List (String × Option Value)}
    (h : (entries.map Prod.fst).Nodup) : ((put key value entries).map Prod.fst).Nodup := by
  induction entries with
  | nil => simp [put]
  | cons first rest ih =>
      rw [List.map_cons, List.nodup_cons] at h
      unfold put
      split
      · rename_i same
        rw [List.map_cons, List.nodup_cons]
        exact ⟨same ▸ h.1, h.2⟩
      · rename_i different
        rw [List.map_cons, List.nodup_cons]
        refine ⟨fun member => ?_, ih h.2⟩
        rcases mem_keys_put.1 member with same | later
        · exact different same
        · exact h.1 later

theorem lookup_put (key other : String) (value : Option Value)
    (entries : List (String × Option Value)) :
    (put key value entries).lookup other =
      if other = key then some value else entries.lookup other := by
  induction entries with
  | nil =>
      by_cases same : other = key <;> simp [put, List.lookup_cons, same]
      rw [beq_eq_false_iff_ne.2 same]
  | cons first rest ih =>
      obtain ⟨name, held⟩ := first
      unfold put
      split
      · rename_i found
        subst found
        by_cases same : other = name
        · simp [same]
        · simp [List.lookup_cons, same, beq_eq_false_iff_ne.2 same]
      · rename_i different
        by_cases here : other = name
        · subst here
          simp [different]
        · simp only [List.lookup_cons, beq_eq_false_iff_ne.2 here, ih]

/-- A later entry at a key takes the place of an earlier one. -/
theorem put_put (key : String) (first second : Option Value)
    (entries : List (String × Option Value)) :
    put key second (put key first entries) = put key second entries := by
  induction entries with
  | nil => simp [put]
  | cons entry rest ih =>
      by_cases found : entry.1 = key
      · simp [put, found]
      · simp [put, found, ih]

def set (state : State) (key : String) (value : Value) : State :=
  ⟨put key (some value) state.entries, nodup_keys_put state.distinct⟩

theorem slot?_set (state : State) (key other : String) (value : Value) :
    (state.set key value).slot? other = if other = key then some (some value) else state.slot? other :=
  lookup_put key other (some value) state.entries

theorem get?_set (state : State) (key other : String) (value : Value) :
    (state.set key value).get? other = if other = key then some value else state.get? other := by
  unfold get?
  rw [slot?_set]
  split <;> rfl

@[simp] theorem get?_set_self (state : State) (key : String) (value : Value) :
    (state.set key value).get? key = some value := by
  simp [get?_set]

theorem get?_set_of_ne (state : State) {key other : String} (value : Value) (h : other ≠ key) :
    (state.set key value).get? other = state.get? other := by
  simp [get?_set, h]

/-- What holds of every value in a state holds of the values of its entries, and can be checked
there. -/
theorem forall_get?_iff {state : State} {property : Value → Prop} :
    (∀ key value, state.get? key = some value → property value) ↔
      ∀ entry ∈ state.entries, ∀ value ∈ entry.2, property value := by
  simp only [get?, Option.join_eq_some_iff, slot?_eq_some_iff]
  constructor
  · rintro h ⟨key, slot⟩ member value rfl
    exact h key value member
  · intro h key value member
    exact h (key, some value) member value rfl

/-- Later entries replace earlier ones of the same key. -/
def ofList (entries : List (String × Option Value)) : State :=
  entries.foldl (fun state entry => ⟨put entry.1 entry.2 state.entries, nodup_keys_put state.distinct⟩)
    empty

def toList (state : State) : List (String × Option Value) :=
  state.entries

theorem put_of_not_mem {key : String} {value : Option Value}
    {entries : List (String × Option Value)} (h : key ∉ entries.map Prod.fst) :
    put key value entries = entries ++ [(key, value)] := by
  induction entries with
  | nil => rfl
  | cons first rest ih =>
      rw [List.map_cons, List.mem_cons, not_or] at h
      rw [put, if_neg (Ne.symm h.1), ih h.2, List.cons_append]

/-- Entries under keys of their own are added as they come. -/
theorem entries_foldl_put {added : List (String × Option Value)} {state : State}
    (h : ((state.entries ++ added).map Prod.fst).Nodup) :
    (added.foldl (fun state entry => State.mk (put entry.1 entry.2 state.entries)
      (nodup_keys_put state.distinct)) state).entries = state.entries ++ added := by
  induction added generalizing state with
  | nil => exact (List.append_nil _).symm
  | cons first rest ih =>
      have absent : first.1 ∉ state.entries.map Prod.fst := by
        rw [List.map_append, List.nodup_append] at h
        exact fun member => h.2.2 _ member _ (by simp) rfl
      have next : put first.1 first.2 state.entries = state.entries ++ [first] := put_of_not_mem absent
      rw [List.foldl_cons, ih]
      · show put first.1 first.2 state.entries ++ rest = _
        rw [next, List.append_assoc, List.singleton_append]
      · show ((put first.1 first.2 state.entries ++ rest).map Prod.fst).Nodup
        rw [next, List.append_assoc, List.singleton_append]
        exact h

theorem eq_of_entries {first second : State} (h : first.entries = second.entries) :
    first = second := by
  obtain ⟨entries, distinct⟩ := first
  cases h
  rfl

theorem set_set (state : State) (key : String) (first second : Value) :
    (state.set key first).set key second = state.set key second :=
  eq_of_entries (put_put key (some first) (some second) state.entries)

theorem ofList_toList (state : State) : ofList state.toList = state :=
  eq_of_entries (entries_foldl_put state.distinct)

end State

end NarrativeScript
