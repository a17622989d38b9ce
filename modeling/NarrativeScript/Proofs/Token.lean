import NarrativeScript.Script.Run

/-!
# Tokens

The words of a piece of a script hold neither a blank nor a semicolon. Joined to
a text again they make at most one piece, and that piece is read as the same
words. A branch of a conditional is made of tokens of the statement it stands
in, and of fewer of them.
-/

namespace NarrativeScript.Text

/-- A word that holds no semicolon. -/
def IsToken (token : String) : Prop :=
  IsWord token ∧ ';' ∉ token.toList

instance : DecidablePred IsToken := fun _ => inferInstanceAs (Decidable (_ ∧ _))

theorem IsToken.isWord {token : String} (h : IsToken token) : IsWord token :=
  h.1

theorem mem_of_mem_words {text token : String} {character : Char} (member : token ∈ words text)
    (inside : character ∈ token.toList) : character ∈ text.toList := by
  obtain ⟨piece, kept, rfl⟩ := List.mem_map.1 member
  rw [String.toList_ofList] at inside
  exact (mem_of_mem_splitOnP piece (List.mem_filter.1 kept).1 character inside).1

theorem isToken_of_mem_words {text token : String} (single : ';' ∉ text.toList)
    (member : token ∈ words text) : IsToken token :=
  ⟨isWord_of_mem_words member, fun inside => single (mem_of_mem_words member inside)⟩

theorem not_mem_of_mem_segments {text segment : String} (member : segment ∈ segments text) :
    ';' ∉ segment.toList := by
  obtain ⟨piece, cut, rfl⟩ := List.mem_map.1 member
  rw [String.toList_ofList]
  intro inside
  simpa using (mem_of_mem_splitOnP piece cut ';' inside).2

theorem segments_eq_singleton {text : String} (single : ';' ∉ text.toList) :
    segments text = [text] := by
  have kept : ∀ character ∈ text.toList, (character == ';') = false := by
    intro character inside
    exact beq_eq_false_iff_ne.2 fun same => single (same ▸ inside)
  rw [segments, List.splitOn_eq_splitOnP, List.splitOnP_eq_singleton kept]
  simp

theorem not_mem_unwords {tokens : List String} (h : ∀ token ∈ tokens, ';' ∉ token.toList) :
    ';' ∉ (unwords tokens).toList := by
  rw [unwords, String.toList_intercalate]
  induction tokens with
  | nil => simp
  | cons first rest ih =>
      have here := h first (by simp)
      cases rest with
      | nil => simpa using here
      | cons second rest =>
          have later := ih fun token inside => h token (by simp [inside])
          simpa [here] using later

theorem unwords_ne_empty {tokens : List String} (h : ∀ token ∈ tokens, IsToken token)
    (filled : tokens ≠ []) : unwords tokens ≠ "" := by
  intro empty
  apply filled
  rw [← words_unwords fun token inside => (h token inside).1, empty]
  rfl

end NarrativeScript.Text

namespace NarrativeScript.Script

open NarrativeScript.Text

theorem not_mem_of_mem_pieces {script : Option String} {piece : String}
    (member : piece ∈ pieces script) : ';' ∉ piece.toList := by
  cases script with
  | none => cases member
  | some text =>
      rw [pieces] at member
      split at member
      · cases member
      · exact not_mem_of_mem_segments member

theorem not_mem_of_pieces_eq {script : Option String} {before after : List String} {piece : String}
    (cut : pieces script = before ++ piece :: after) : ';' ∉ piece.toList := by
  apply not_mem_of_mem_pieces
  rw [cut]
  exact List.mem_append_right before List.mem_cons_self

theorem pieces_eq_singleton {text : String} (filled : text ≠ "") (single : ';' ∉ text.toList) :
    pieces (some text) = [text] := by
  rw [pieces, if_neg filled, segments_eq_singleton single]

theorem Instruction.isToken_word (instruction : Instruction) : IsToken instruction.word := by
  cases instruction with
  | arithmetic operation => cases operation <;> decide
  | _ => decide

theorem mem_of_mem_beforeFirst {mark token : String} {tokens : List String}
    (member : token ∈ beforeFirst mark tokens) : token ∈ tokens :=
  (List.takeWhile_sublist _).subset member

theorem mem_of_mem_afterFirst {mark token : String} {tokens : List String}
    (member : token ∈ afterFirst mark tokens) : token ∈ tokens :=
  (List.dropWhile_sublist _).subset (List.mem_of_mem_drop member)

theorem length_afterFirst_le (mark : String) (tokens : List String) :
    (afterFirst mark tokens).length ≤ tokens.length :=
  ((List.drop_sublist _ _).trans (List.dropWhile_sublist _)).length_le

theorem length_beforeFirst_le (mark : String) (tokens : List String) :
    (beforeFirst mark tokens).length ≤ tokens.length :=
  (List.takeWhile_sublist _).length_le

theorem mem_of_mem_condition {params : List String} {token : String}
    (member : token ∈ (Branches.ofParams params).condition) : token ∈ params :=
  mem_of_mem_beforeFirst member

/-- What holds of both ways to cut a branch out of the parameters. -/
theorem chosen_cases {params branch : List String} {result : Bool}
    (taken : (Branches.ofParams params).chosen result = some branch) :
    branch = afterFirst thenToken (beforeFirst elseToken params) ∨
      branch = afterFirst elseToken params := by
  cases result with
  | true => exact .inl (Option.some.inj taken).symm
  | false =>
      simp only [Branches.chosen, Branches.ofParams] at taken
      split at taken
      · exact .inr (Option.some.inj taken).symm
      · cases taken

theorem mem_of_mem_chosen {params branch : List String} {result : Bool} {token : String}
    (taken : (Branches.ofParams params).chosen result = some branch) (member : token ∈ branch) :
    token ∈ params := by
  rcases chosen_cases taken with rfl | rfl
  · exact mem_of_mem_beforeFirst (mem_of_mem_afterFirst member)
  · exact mem_of_mem_afterFirst member

theorem length_chosen_le {params branch : List String} {result : Bool}
    (taken : (Branches.ofParams params).chosen result = some branch) :
    branch.length ≤ params.length := by
  rcases chosen_cases taken with rfl | rfl
  · exact Nat.le_trans (length_afterFirst_le _ _) (length_beforeFirst_le _ _)
  · exact length_afterFirst_le _ _

end NarrativeScript.Script
