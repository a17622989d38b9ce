import NarrativeScript.Text.Blank

/-!
# Words and segments

A line of words is read by cutting at every blank and dropping what is empty,
and written with one space between neighbours. A script is cut at every
semicolon; here empty pieces stay, because an empty piece is a faulty
statement. Reading undoes writing on words that hold no blank.
-/

namespace NarrativeScript.Text

def wordLists (characters : List Char) : List (List Char) :=
  (characters.splitOnP isBlank).filter fun piece => !piece.isEmpty

def words (text : String) : List String :=
  (wordLists text.toList).map String.ofList

def unwords (tokens : List String) : String :=
  " ".intercalate tokens

/-- A word is not empty and holds no blank. -/
def IsWord (token : String) : Prop :=
  token ≠ "" ∧ ∀ character ∈ token.toList, isBlank character = false

instance : DecidablePred IsWord :=
  fun token => @instDecidableAnd _ _ inferInstance (List.decidableBAll _ token.toList)

theorem mem_of_mem_splitOnP {separates : Char → Bool} {characters : List Char} :
    ∀ piece ∈ characters.splitOnP separates, ∀ character ∈ piece,
      character ∈ characters ∧ separates character = false := by
  induction characters with
  | nil => simp
  | cons first rest ih =>
      rw [List.splitOnP_cons_eq_if_modifyHead]
      split
      · intro piece member character inside
        rcases List.mem_cons.1 member with rfl | later
        · cases inside
        · exact (ih piece later character inside).imp_left (List.mem_cons_of_mem first)
      · rename_i kept
        cases pieces : rest.splitOnP separates with
        | nil => simp
        | cons head tail =>
            rw [pieces] at ih
            intro piece member character inside
            rcases List.mem_cons.1 member with rfl | later
            · rcases List.mem_cons.1 inside with rfl | deeper
              · exact ⟨List.mem_cons_self, by simpa using kept⟩
              · exact (ih head (by simp) character deeper).imp_left (List.mem_cons_of_mem first)
            · exact (ih piece (by simp [later]) character inside).imp_left
                (List.mem_cons_of_mem first)

theorem isWord_of_mem_words {text token : String} (member : token ∈ words text) : IsWord token := by
  obtain ⟨piece, kept, rfl⟩ := List.mem_map.1 member
  obtain ⟨cut, filled⟩ := List.mem_filter.1 kept
  refine ⟨fun empty => ?_, fun character inside => ?_⟩
  · rw [← String.toList_eq_nil_iff, String.toList_ofList] at empty
    simp [empty] at filled
  · rw [String.toList_ofList] at inside
    exact (mem_of_mem_splitOnP piece cut character inside).2

theorem wordLists_intercalate {tokens : List (List Char)}
    (h : ∀ token ∈ tokens, token ≠ [] ∧ ∀ character ∈ token, isBlank character = false) :
    wordLists ([' '].intercalate tokens) = tokens := by
  induction tokens with
  | nil => simp [wordLists]
  | cons first rest ih =>
      obtain ⟨filled, solid⟩ := h first (by simp)
      cases rest with
      | nil => simp [wordLists, List.splitOnP_eq_singleton solid, filled]
      | cons second rest =>
          have later := ih fun token inside => h token (by simp [inside])
          have joined : [' '].intercalate (first :: second :: rest) =
              first ++ ' ' :: [' '].intercalate (second :: rest) := by simp
          rw [joined, wordLists, List.splitOnP_append_cons _ _ (by decide),
            List.splitOnP_eq_singleton solid, List.filter_append]
          rw [wordLists] at later
          rw [later]
          simp [filled]

theorem words_unwords {tokens : List String} (h : ∀ token ∈ tokens, IsWord token) :
    words (unwords tokens) = tokens := by
  rw [words, unwords, String.toList_intercalate, show (" " : String).toList = [' '] from by decide,
    wordLists_intercalate]
  · simp [Function.comp_def]
  · intro piece member
    obtain ⟨token, inside, rfl⟩ := List.mem_map.1 member
    exact ⟨fun empty => (h token inside).1 (String.toList_eq_nil_iff.1 empty), (h token inside).2⟩

/-- The pieces between semicolons; there is one piece more than semicolons. -/
def segments (text : String) : List String :=
  (text.toList.splitOn ';').map String.ofList

theorem segments_append (first second : String) :
    segments (first ++ ";" ++ second) = segments first ++ segments second := by
  have cut : (first ++ ";" ++ second).toList = first.toList ++ ';' :: second.toList := by simp
  rw [segments, cut, List.splitOn, List.splitOnP_append_cons _ _ (by decide), List.map_append]
  rfl

end NarrativeScript.Text
