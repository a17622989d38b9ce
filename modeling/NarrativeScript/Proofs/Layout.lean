import Mathlib.Data.List.Forall2
import NarrativeScript.Proofs.TokenRun

/-!
# Layouts of a script

The tokens of a statement may be laid out with any blanks around them and at
least one between neighbours, and a script is its statements with one semicolon
between neighbours. Reading a layout gives the statements back. Whatever text is
read, it is a layout of the statements that are found, up to the first piece
that has fewer than two tokens; that piece is shown as it stands.
-/

namespace NarrativeScript.Text

/-- The text holds nothing but blanks. -/
def IsGap (text : String) : Prop :=
  ∀ character ∈ text.toList, isBlank character = true

/-- The text shows the tokens in order, with gaps around them that are not empty between
neighbours. -/
inductive LaysOut : List String → String → Prop where
  | blank {gap : String} (isGap : IsGap gap) : LaysOut [] gap
  | last {before token after : String} (leading : IsGap before) (trailing : IsGap after) :
      LaysOut [token] (before ++ token ++ after)
  | next {before token gap second text : String} {rest : List String} (leading : IsGap before)
      (isGap : IsGap gap) (filled : gap ≠ "") (later : LaysOut (second :: rest) text) :
      LaysOut (token :: second :: rest) (before ++ token ++ gap ++ text)

theorem words_append_blank {character : Char} (blank : isBlank character = true)
    (first second : List Char) :
    wordLists (first ++ character :: second) = wordLists first ++ wordLists second := by
  unfold wordLists
  rw [List.splitOnP_append_cons first second blank, List.filter_append]

theorem wordLists_gap_append {gap : List Char} (blank : ∀ character ∈ gap, isBlank character = true)
    (characters : List Char) : wordLists (gap ++ characters) = wordLists characters := by
  induction gap with
  | nil => rfl
  | cons character rest ih =>
      have here := words_append_blank (blank character List.mem_cons_self) [] (rest ++ characters)
      rw [List.nil_append] at here
      rw [List.cons_append, here, ih fun other member => blank other (List.mem_cons_of_mem _ member)]
      rfl

theorem wordLists_gap {gap : List Char} (blank : ∀ character ∈ gap, isBlank character = true) :
    wordLists gap = [] := by
  have emptied := wordLists_gap_append blank []
  rw [List.append_nil] at emptied
  exact emptied

theorem wordLists_word {word : List Char} (filled : word ≠ [])
    (solid : ∀ character ∈ word, isBlank character = false) : wordLists word = [word] := by
  unfold wordLists
  rw [List.splitOnP_eq_singleton solid]
  simp [filled]

/-- A gap ends a word, and is part of none. -/
theorem wordLists_word_append {word gap : List Char} (filled : word ≠ [])
    (solid : ∀ character ∈ word, isBlank character = false)
    (blank : ∀ character ∈ gap, isBlank character = true) (separated : gap ≠ [])
    (characters : List Char) :
    wordLists (word ++ (gap ++ characters)) = word :: wordLists characters := by
  cases gap with
  | nil => exact absurd rfl separated
  | cons character rest =>
      rw [List.cons_append, words_append_blank (blank character List.mem_cons_self),
        wordLists_word filled solid,
        wordLists_gap_append fun other member => blank other (List.mem_cons_of_mem _ member)]
      rfl

theorem IsWord.toList_ne_nil {token : String} (h : IsWord token) : token.toList ≠ [] :=
  fun empty => h.1 (String.toList_eq_nil_iff.1 empty)

theorem words_of_laysOut {tokens : List String} {text : String} (h : LaysOut tokens text)
    (solid : ∀ token ∈ tokens, IsWord token) : words text = tokens := by
  induction h with
  | blank isGap =>
      rw [words, wordLists_gap isGap]
      rfl
  | @last before token after leading trailing =>
      have word := solid token List.mem_cons_self
      rw [words, String.toList_append, String.toList_append, List.append_assoc,
        wordLists_gap_append leading]
      by_cases empty : after = ""
      · subst empty
        rw [show ("" : String).toList = [] from rfl, List.append_nil,
          wordLists_word word.toList_ne_nil word.2]
        simp
      · have separated : after.toList ≠ [] := fun bare => empty (String.toList_eq_nil_iff.1 bare)
        have alone := wordLists_word_append word.toList_ne_nil word.2 trailing separated []
        rw [List.append_nil] at alone
        rw [alone]
        simp [wordLists]
  | @next before token gap second text rest leading isGap filled _ ih =>
      have word := solid token List.mem_cons_self
      have separated : gap.toList ≠ [] := fun bare => filled (String.toList_eq_nil_iff.1 bare)
      have later := ih fun other member => solid other (List.mem_cons_of_mem token member)
      rw [words] at later ⊢
      rw [String.toList_append, String.toList_append, String.toList_append, List.append_assoc,
        List.append_assoc, wordLists_gap_append leading,
        wordLists_word_append word.toList_ne_nil word.2 isGap separated, List.map_cons, later,
        String.ofList_toList]

/-! ### Every text is a layout of its words -/

theorem IsGap.append {first second : String} (h : IsGap first) (later : IsGap second) :
    IsGap (first ++ second) := by
  rw [IsGap, String.toList_append]
  exact List.forall_mem_append.2 ⟨h, later⟩

theorem isGap_ofList {characters : List Char}
    (blank : ∀ character ∈ characters, isBlank character = true) :
    IsGap (String.ofList characters) := by
  intro character inside
  rw [String.toList_ofList] at inside
  exact blank character inside

theorem LaysOut.isGap {text : String} (h : LaysOut [] text) : IsGap text := by
  cases h with
  | blank isGap => exact isGap

theorem LaysOut.indent {before text : String} {tokens : List String} (leading : IsGap before)
    (h : LaysOut tokens text) : LaysOut tokens (before ++ text) := by
  cases h with
  | blank isGap => exact .blank (leading.append isGap)
  | @last inner token after led trailing =>
      have joined : LaysOut [token] (before ++ inner ++ token ++ after) :=
        .last (leading.append led) trailing
      simpa only [String.append_assoc] using joined
  | @next inner token gap second text rest led isGap filled later =>
      have joined : LaysOut (token :: second :: rest) (before ++ inner ++ token ++ gap ++ text) :=
        .next (leading.append led) isGap filled later
      simpa only [String.append_assoc] using joined

/-- Characters that start with a solid one are a word, and then either nothing or a blank. -/
theorem exists_leading_word {character : Char} (solid : isBlank character = false)
    (rest : List Char) :
    ∃ word later, character :: rest = word ++ later ∧ word ≠ [] ∧
      (∀ other ∈ word, isBlank other = false) ∧
      (later = [] ∨ ∃ blank tail, later = blank :: tail ∧ isBlank blank = true) := by
  induction rest generalizing character with
  | nil => exact ⟨[character], [], rfl, by simp, by simpa using solid, .inl rfl⟩
  | cons next rest ih =>
      cases kind : isBlank next with
      | true =>
          exact ⟨[character], next :: rest, rfl, by simp, by simpa using solid,
            .inr ⟨next, rest, rfl, kind⟩⟩
      | false =>
          obtain ⟨word, later, cut, -, inside, stop⟩ := ih kind
          refine ⟨character :: word, later, by rw [cut]; rfl, by simp, ?_, stop⟩
          intro other member
          rcases List.mem_cons.1 member with rfl | deeper
          · exact solid
          · exact inside other deeper

theorem LaysOut.single (token : String) : LaysOut [token] token := by
  have alone : LaysOut [token] ("" ++ token ++ "") := .last (by simp [IsGap]) (by simp [IsGap])
  simpa using alone

theorem LaysOut.cons {token gap text : String} {tokens : List String} (isGap : IsGap gap)
    (filled : gap ≠ "") (h : LaysOut tokens text) :
    LaysOut (token :: tokens) (token ++ (gap ++ text)) := by
  cases tokens with
  | nil =>
      have alone : LaysOut [token] ("" ++ token ++ (gap ++ text)) :=
        .last (by simp [IsGap]) (isGap.append h.isGap)
      simpa using alone
  | cons second rest =>
      have joined : LaysOut (token :: second :: rest) ("" ++ token ++ gap ++ text) :=
        .next (by simp [IsGap]) isGap filled h
      simpa only [String.empty_append, String.append_assoc] using joined

/-- By induction on the number of characters: a leading blank is indentation, and a leading word is
the first token. -/
theorem laysOut_wordLists (characters : List Char) :
    LaysOut ((wordLists characters).map String.ofList) (String.ofList characters) := by
  induction size : characters.length using Nat.strongRecOn generalizing characters with
  | ind size ih =>
      subst size
      cases characters with
      | nil => exact .blank (by simp [IsGap])
      | cons character rest =>
          cases kind : isBlank character with
          | true =>
              have blank : ∀ other ∈ [character], isBlank other = true := by simpa using kind
              have later := (ih rest.length (by simp) rest rfl).indent (isGap_ofList blank)
              rw [← String.ofList_append, ← wordLists_gap_append blank rest] at later
              exact later
          | false =>
              obtain ⟨word, later, cut, filled, solid, stop⟩ := exists_leading_word kind rest
              rw [cut]
              rcases stop with rfl | ⟨blank, tail, rfl, isBlank⟩
              · rw [List.append_nil, wordLists_word filled solid]
                exact .single _
              · have gap : ∀ other ∈ [blank], Text.isBlank other = true := by simpa using isBlank
                have shorter : tail.length < (character :: rest).length := by
                  rw [cut]
                  simp
                  omega
                rw [← List.singleton_append (x := blank),
                  wordLists_word_append filled solid gap (by simp) tail, List.map_cons,
                  String.ofList_append, String.ofList_append]
                exact .cons (isGap_ofList gap) (by simp) (ih tail.length shorter tail rfl)

theorem laysOut_words (text : String) : LaysOut (words text) text := by
  have laid := laysOut_wordLists text.toList
  rw [String.ofList_toList] at laid
  exact laid

/-- A text is a layout of its words, and of no other tokens. -/
theorem laysOut_iff {tokens : List String} {text : String}
    (solid : ∀ token ∈ tokens, IsWord token) : LaysOut tokens text ↔ words text = tokens := by
  constructor
  · intro laid
    exact words_of_laysOut laid solid
  · rintro rfl
    exact laysOut_words text

theorem IsGap.not_mem {gap : String} (h : IsGap gap) {character : Char}
    (solid : isBlank character = false) : character ∉ gap.toList := by
  intro inside
  rw [h character inside] at solid
  cases solid

/-- What is laid out between tokens without a semicolon has none. -/
theorem LaysOut.not_mem {tokens : List String} {text : String} (h : LaysOut tokens text)
    (plain : ∀ token ∈ tokens, ';' ∉ token.toList) : ';' ∉ text.toList := by
  induction h with
  | blank isGap => exact isGap.not_mem not_isBlank_semicolon
  | @last before token after leading trailing =>
      simp [leading.not_mem not_isBlank_semicolon, trailing.not_mem not_isBlank_semicolon,
        plain token List.mem_cons_self]
  | @next before token gap second text rest leading isGap filled _ ih =>
      have later := ih fun other member => plain other (List.mem_cons_of_mem token member)
      simp [leading.not_mem not_isBlank_semicolon, isGap.not_mem not_isBlank_semicolon,
        plain token List.mem_cons_self, later]

/-- The texts are those between the semicolons of the text. -/
structure IsCut (texts : List String) (text : String) : Prop where
  filled : texts ≠ []
  single : ∀ piece ∈ texts, ';' ∉ piece.toList
  joined : ";".intercalate texts = text

theorem segments_empty : segments "" = [""] := rfl

theorem isCut_segments (text : String) : IsCut (segments text) text := by
  refine ⟨?_, fun piece member => not_mem_of_mem_segments member, ?_⟩
  · simp [segments, List.splitOn_eq_splitOnP, List.splitOnP_ne_nil]
  · rw [← String.toList_inj, String.toList_intercalate, segments, List.map_map]
    simp [Function.comp_def, List.intercalate_splitOn]

theorem IsCut.segments_eq {texts : List String} {text : String} (h : IsCut texts text) :
    segments text = texts := by
  have single : ∀ characters ∈ texts.map String.toList, ';' ∉ characters := by
    intro characters member
    obtain ⟨piece, inside, rfl⟩ := List.mem_map.1 member
    exact h.single piece inside
  rw [← h.joined, segments, String.toList_intercalate,
    show (";" : String).toList = [';'] from rfl,
    List.splitOn_intercalate ';' single (by simpa using h.filled)]
  simp [Function.comp_def]

end NarrativeScript.Text

namespace NarrativeScript.Script

open NarrativeScript.Text

def Statement.tokens (statement : Statement) : List String :=
  statement.type :: statement.params

theorem Statement.parse_eq_ok_iff {piece : String} {statement : Statement} :
    Statement.parse piece = .ok statement ↔ words piece = statement.tokens := by
  unfold Statement.parse Statement.tokens
  split
  · rename_i type first rest read
    rw [make_eq_ok_iff, read, List.cons.injEq]
    exact ⟨fun h => ⟨h.1.symm, h.2.symm⟩, fun h => ⟨h.1.symm, h.2.symm⟩⟩
  · rename_i short
    constructor
    · intro impossible
      cases impossible
    · intro read
      obtain ⟨first, rest, params⟩ := List.exists_cons_of_ne_nil statement.params_ne_nil
      rw [params] at read
      exact (short _ _ _ read).elim

/-- The text shows at least two words. -/
def IsFull (piece : String) : Prop :=
  ∃ tokens, 2 ≤ tokens.length ∧ (∀ token ∈ tokens, IsWord token) ∧ LaysOut tokens piece

theorem isFull_iff {piece : String} : IsFull piece ↔ 2 ≤ (words piece).length := by
  constructor
  · rintro ⟨tokens, many, solid, laid⟩
    rw [words_of_laysOut laid solid]
    exact many
  · intro many
    exact ⟨words piece, many, fun token member => isWord_of_mem_words member, laysOut_words piece⟩

/-- A piece that cannot be read has too few words, and is shown as it stands. -/
theorem Statement.of_parse_error {piece : String} {failure : Failure}
    (h : Statement.parse piece = .error failure) :
    ¬ IsFull piece ∧ failure = .format .shortStatement (.text piece) := by
  rw [isFull_iff]
  cases read : words piece with
  | nil =>
      rw [Statement.parse, read] at h
      cases h
      exact ⟨by simp, rfl⟩
  | cons type params =>
      cases params with
      | nil =>
          rw [Statement.parse, read] at h
          cases h
          exact ⟨by simp, rfl⟩
      | cons first rest =>
          obtain ⟨statement, parsed, -⟩ := parse_of_words read
          rw [parsed] at h
          cases h

/-! ### Scripts -/

/-- The text is a layout of the statements, with one semicolon between neighbours. -/
def Renders (written : List Statement) (text : String) : Prop :=
  ∃ texts, List.Forall₂ (fun statement piece => LaysOut statement.tokens piece) written texts ∧
    ";".intercalate texts = text

/-- The statements are those of the leading texts that show two words or more; the failure shows the
text after them, if there is one. -/
def IsReading (texts : List String) (read : List Statement × Option Failure) : Prop :=
  ∃ full rest, texts = full ++ rest ∧
    List.Forall₂ (fun statement piece => LaysOut statement.tokens piece) read.1 full ∧
    (∀ statement ∈ read.1, ∀ token ∈ statement.tokens, IsToken token) ∧
    (rest = [] ∧ read.2 = none ∨
      ∃ piece later, rest = piece :: later ∧ ¬ IsFull piece ∧
        read.2 = some (.format .shortStatement (.text piece)))

theorem readPieces_of_laysOut {written : List Statement} {texts : List String}
    (solid : ∀ statement ∈ written, ∀ token ∈ statement.tokens, IsToken token)
    (laid : List.Forall₂ (fun statement piece => LaysOut statement.tokens piece) written texts) :
    readPieces texts = (written, none) := by
  induction laid with
  | nil => rfl
  | @cons statement piece written texts here _ ih =>
      have read : words piece = statement.tokens :=
        words_of_laysOut here fun token member => (solid statement (by simp) token member).isWord
      have later := ih fun other member => solid other (List.mem_cons_of_mem statement member)
      rw [readPieces, Statement.parse_eq_ok_iff.2 read]
      dsimp only
      rw [later]

theorem single_of_laysOut {written : List Statement} {texts : List String}
    (plain : ∀ statement ∈ written, ∀ token ∈ statement.tokens, IsToken token)
    (laid : List.Forall₂ (fun statement piece => LaysOut statement.tokens piece) written texts) :
    ∀ piece ∈ texts, ';' ∉ piece.toList := by
  induction laid with
  | nil => simp
  | @cons statement piece written texts here _ ih =>
      have first : ';' ∉ piece.toList :=
        here.not_mem fun token member => (plain statement (by simp) token member).2
      have later := ih fun other member => plain other (List.mem_cons_of_mem statement member)
      simpa [first] using later

theorem isReading_readPieces {texts : List String} (single : ∀ piece ∈ texts, ';' ∉ piece.toList) :
    IsReading texts (readPieces texts) := by
  induction texts with
  | nil => exact ⟨[], [], rfl, .nil, by simp [readPieces], .inl ⟨rfl, rfl⟩⟩
  | cons piece rest ih =>
      rw [readPieces]
      cases parsed : Statement.parse piece with
      | error failure =>
          obtain ⟨short, rfl⟩ := Statement.of_parse_error parsed
          exact ⟨[], piece :: rest, rfl, .nil, by simp, .inr ⟨piece, rest, rfl, short, rfl⟩⟩
      | ok statement =>
          obtain ⟨full, later, cut, laid, solid, stop⟩ :=
            ih fun other member => single other (List.mem_cons_of_mem piece member)
          have read := Statement.parse_eq_ok_iff.1 parsed
          refine ⟨piece :: full, later, by rw [cut]; rfl, .cons ?_ laid, ?_, stop⟩
          · rw [← read]
            exact laysOut_words piece
          · intro other member token inside
            rcases List.mem_cons.1 member with rfl | deeper
            · rw [← read] at inside
              exact isToken_of_mem_words (single piece List.mem_cons_self) inside
            · exact solid other deeper token inside

theorem statements_some {text : String} (filled : text ≠ "") :
    statements (some text) = readPieces (segments text) := by
  rw [statements, pieces, if_neg filled]

section Running

variable {σ : Type} [Dice.Source σ]

/-- Carries out statements in order, up to the first that fails. -/
def dispatchAll (context : Context) : List Statement → Session σ → Outcome σ
  | [], session => .done session
  | statement :: rest, session =>
      (dispatch context statement session).andThen (dispatchAll context rest)

theorem dispatchAll_append (context : Context) (first second : List Statement)
    (session : Session σ) :
    dispatchAll context (first ++ second) session =
      (dispatchAll context first session).andThen (dispatchAll context second) := by
  induction first generalizing session with
  | nil => rfl
  | cons statement rest ih =>
      rw [List.cons_append, dispatchAll, dispatchAll, Outcome.andThen_assoc]
      exact congrArg _ (funext ih)

theorem runPieces_eq_dispatchAll (context : Context) (texts : List String) (session : Session σ) :
    runPieces (enter context) texts session =
      (dispatchAll context (readPieces texts).1 session).andThen
        fun reached => ⟨(readPieces texts).2, reached⟩ := by
  induction texts generalizing session with
  | nil => rfl
  | cons piece rest ih =>
      rw [runPieces, runPiece, readPieces]
      cases Statement.parse piece with
      | error failure => rfl
      | ok statement =>
          dsimp only
          rw [dispatchAll, Outcome.andThen_assoc, dispatch]
          exact congrArg _ (funext ih)

/-- A run carries out the statements that are read, and then fails if reading did. -/
theorem run_eq_dispatchAll (context : Context) (script : Option String) (session : Session σ) :
    run context script session =
      (dispatchAll context (statements script).1 session).andThen
        fun reached => ⟨(statements script).2, reached⟩ := by
  rw [run_eq, runPieces_eq_dispatchAll, statements]

end Running

/-- Reading undoes every layout of a script. Of any text, the statements are those of the pieces
between its semicolons, up to the first piece that shows fewer than two words; the failure shows that
piece as it stands. -/
theorem reading_undoes_layout :
    (∀ (written : List Statement) (text : String), written ≠ [] →
      (∀ statement ∈ written, ∀ token ∈ statement.tokens, IsToken token) →
        Renders written text → statements (some text) = (written, none)) ∧
      (∀ text, text ≠ "" →
        ∃ texts, IsCut texts text ∧ IsReading texts (statements (some text))) ∧
      statements (some "") = ([], none) ∧ statements none = ([], none) := by
  refine ⟨?_, fun text filled => ?_, rfl, rfl⟩
  · rintro written text filled plain ⟨texts, laid, joined⟩
    have read := readPieces_of_laysOut plain laid
    have cut : IsCut texts text := by
      refine ⟨?_, ?_, joined⟩
      · rintro rfl
        cases laid
        exact filled rfl
      · exact single_of_laysOut plain laid
    rw [statements_some ?_, cut.segments_eq, read]
    rintro rfl
    rw [← cut.segments_eq, segments_empty] at read
    cases read
  · rw [statements_some filled]
    exact ⟨segments text, isCut_segments text,
      isReading_readPieces fun piece member => not_mem_of_mem_segments member⟩

/-- Tabs, a wide space, a no-break space and a line separator are as good as spaces; a lone blank
between two semicolons is not a statement. -/
theorem wide_layout_is_read :
    let written : List Statement :=
      [⟨"SET", ["door", "open"], by decide, by decide⟩, ⟨"GOTO", ["inn"], by decide, by decide⟩]
    let text := "\u3000SET\t\u00a0door  open\n;GOTO\u2028inn "
    (written ≠ [] ∧ (∀ statement ∈ written, ∀ token ∈ statement.tokens, IsToken token) ∧
        Renders written text) ∧ statements (some text) = (written, none) ∧
      ∃ texts, IsCut texts "GOTO inn; ;GOTO" ∧
        IsReading texts ([⟨"GOTO", ["inn"], by decide, by decide⟩],
          some (.format .shortStatement (.text " "))) := by
  intro written text
  have plain : ∀ statement ∈ written, ∀ token ∈ statement.tokens, IsToken token := by
    decide +kernel
  have laid : Renders written text := by
    refine ⟨["\u3000SET\t\u00a0door  open\n", "GOTO\u2028inn "], .cons ?_ (.cons ?_ .nil), by decide⟩
    · exact (laysOut_iff (by decide +kernel)).2 (by decide +kernel)
    · exact (laysOut_iff (by decide +kernel)).2 (by decide +kernel)
  obtain ⟨undone, cut, -⟩ := reading_undoes_layout
  refine ⟨⟨by simp [written], plain, laid⟩, undone written text (by simp [written]) plain laid, ?_⟩
  have read : statements (some "GOTO inn; ;GOTO") =
      ([⟨"GOTO", ["inn"], by decide, by decide⟩], some (.format .shortStatement (.text " "))) := by
    decide +kernel
  rw [← read]
  exact cut _ (by decide)

end NarrativeScript.Script
