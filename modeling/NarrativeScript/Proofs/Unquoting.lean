import NarrativeScript.Number.Numeral
import NarrativeScript.Proofs.Layout

/-!
# Reading quoted text

A quoted text can be read again. Its first character is the mark; then a
backslash with what follows it, or one other character, shows one character, up
to the mark at the end. Reading undoes quoting, so no two texts are quoted alike,
and a message tells the excerpt that it shows. A list of words is shown as one
line, and the line is told apart into the words again.
-/

namespace NarrativeScript.Text

open NarrativeScript.Number

def IsMark (character : Char) : Prop :=
  character = '\'' ∨ character = '"'

instance : DecidablePred IsMark := fun _ => inferInstanceAs (Decidable (_ ∨ _))

/-- How many hexadecimal digits stand behind a backslash and the letter. -/
def escapeWidth? (letter : Char) : Option Nat :=
  if letter = 'x' then some 2
  else if letter = 'u' then some 4
  else if letter = 'U' then some 8
  else none

/-- What a backslash and the letter show where no digits follow. -/
def escapedCharacter (letter : Char) : Char :=
  if letter = 'n' then '\n'
  else if letter = 'r' then '\r'
  else if letter = 't' then '\t'
  else letter

/-- The character with the code point that so many digits write, and what follows them. -/
def readCode? (width : Nat) (characters : List Char) : Option (Char × List Char) :=
  if width ≤ characters.length then
    ((characters.take width).mapM (digitInBase? 16)).map fun digits =>
      (Char.ofNat (ofDigits 16 digits), characters.drop width)
  else none

/-- The character that the front of a quoted text shows, and what follows it. -/
def readShown? : List Char → Option (Char × List Char)
  | [] => none
  | ['\\'] => none
  | '\\' :: letter :: rest =>
      match escapeWidth? letter with
      | some width => readCode? width rest
      | none => some (escapedCharacter letter, rest)
  | character :: rest => some (character, rest)

theorem length_readShown? {characters rest : List Char} {character : Char}
    (h : readShown? characters = some (character, rest)) : rest.length < characters.length := by
  unfold readShown? at h
  split at h
  · cases h
  · cases h
  · split at h
    · unfold readCode? at h
      split at h
      · obtain ⟨digits, -, same⟩ := Option.map_eq_some_iff.1 h
        cases same
        simp only [List.length_drop, List.length_cons]
        omega
      · cases h
    · cases h
      simp only [List.length_cons]
      omega
  · cases h
    exact Nat.lt_succ_self _

/-- The characters that are shown up to the mark, with which the text has to end. -/
def readInside? (mark : Char) : List Char → Option (List Char)
  | [] => none
  | first :: rest =>
      if first = mark then
        if rest = [] then some [] else none
      else
        match _found : readShown? (first :: rest) with
        | none => none
        | some (character, later) => (readInside? mark later).map (character :: ·)
termination_by characters => characters.length
decreasing_by exact length_readShown? _found

/-- The text that a quoted text shows. -/
def unquote? (shown : String) : Option String :=
  match shown.toList with
  | [] => none
  | mark :: rest =>
      if IsMark mark then (readInside? mark rest).map String.ofList else none

/-! ### Reading undoes quoting -/

theorem digitInBase?_hexDigit {digit : Nat} (small : digit < 16) :
    digitInBase? 16 (hexDigit digit) = some digit := by
  revert digit
  decide

theorem mapM_hexDigits (width number : Nat) :
    ∃ digits, (hexDigits width number).mapM (digitInBase? 16) = some digits ∧
      ofDigits 16 digits = number % 16 ^ width := by
  induction width generalizing number with
  | zero => exact ⟨[], rfl, (Nat.mod_one number).symm⟩
  | succ width ih =>
      obtain ⟨digits, read, value⟩ := ih (number / 16)
      have last : digitInBase? 16 (hexDigit (number % 16)) = some (number % 16) :=
        digitInBase?_hexDigit (Nat.mod_lt number (by decide))
      refine ⟨digits ++ [number % 16], ?_, ?_⟩
      · simp [hexDigits, List.mapM_append, read, last]
      · rw [ofDigits_append_singleton, value, Nat.pow_succ', Nat.mod_mul]
        omega

theorem readCode?_hexDigits {width : Nat} {character : Char} (fits : character.toNat < 16 ^ width)
    (rest : List Char) :
    readCode? width (hexDigits width character.toNat ++ rest) = some (character, rest) := by
  have length := length_hexDigits width character.toNat
  obtain ⟨digits, read, value⟩ := mapM_hexDigits width character.toNat
  rw [Nat.mod_eq_of_lt fits] at value
  rw [readCode?, if_pos (by simp [length]), List.take_left' length, List.drop_left' length, read,
    Option.map_some, value, Char.ofNat_toNat]

theorem toNat_lt (character : Char) : character.toNat < 16 ^ 8 := by
  rcases character.valid with low | ⟨-, high⟩
  · exact Nat.lt_trans low (by decide)
  · exact Nat.lt_trans high (by decide)

/-- Each of the three escapes by code has digits enough for the code points that it is used for. -/
theorem readShown?_codeEscape (character : Char) (rest : List Char) :
    readShown? (codeEscape character.toNat ++ rest) = some (character, rest) := by
  unfold codeEscape
  split
  · rename_i small
    exact readCode?_hexDigits small rest
  · split
    · rename_i middle
      exact readCode?_hexDigits middle rest
    · exact readCode?_hexDigits (toNat_lt character) rest

theorem readShown?_of_ne {character : Char} (plain : character ≠ '\\') (rest : List Char) :
    readShown? (character :: rest) = some (character, rest) := by
  unfold readShown?
  split
  · rename_i impossible
    cases impossible
  · rename_i same
    cases same
    exact absurd rfl plain
  · rename_i same
    cases same
    exact absurd rfl plain
  · rename_i same
    cases same
    rfl

/-- No range of the table reaches into the characters from the space to the tilde. -/
theorem isPrintable_of_ascii {character : Char} (low : ' ' ≤ character) (high : character ≤ '~') :
    isPrintable character = true := by
  have apart : ∀ range ∈ nonPrintableRanges, range.2 < ' '.toNat ∨ '~'.toNat < range.1 := by
    decide +kernel
  have least : ' '.toNat ≤ character.toNat := UInt32.le_iff_toNat_le.1 low
  have most : character.toNat ≤ '~'.toNat := UInt32.le_iff_toNat_le.1 high
  rw [isPrintable, Bool.not_eq_true', ← Bool.not_eq_true, withinRanges_iff]
  rintro ⟨range, member, above, below⟩
  have outside := apart range member
  omega

/-- A character is shown by a backslash and a letter, by itself, or by its code. -/
theorem quotedCharacter_cases {mark : Char} (isMark : IsMark mark) (character : Char) :
    (∃ letter, quotedCharacter mark character = ['\\', letter] ∧ escapeWidth? letter = none ∧
        escapedCharacter letter = character ∧ isPrintable letter = true) ∨
      (quotedCharacter mark character = [character] ∧ character ≠ '\\' ∧ character ≠ mark ∧
        isPrintable character = true) ∨
      quotedCharacter mark character = codeEscape character.toNat := by
  unfold quotedCharacter
  split
  · rename_i special
    have among : character = '\\' ∨ IsMark character :=
      special.imp_right fun same : character = mark => same ▸ isMark
    rcases among with rfl | rfl | rfl
    · exact .inl ⟨'\\', rfl, rfl, rfl, isPrintable_of_ascii (by decide) (by decide)⟩
    · exact .inl ⟨'\'', rfl, rfl, rfl, isPrintable_of_ascii (by decide) (by decide)⟩
    · exact .inl ⟨'"', rfl, rfl, rfl, isPrintable_of_ascii (by decide) (by decide)⟩
  · rename_i ordinary
    obtain ⟨unescaped, unmarked⟩ := not_or.1 ordinary
    split
    · rename_i same
      subst same
      exact .inl ⟨'n', rfl, rfl, rfl, isPrintable_of_ascii (by decide) (by decide)⟩
    · split
      · rename_i same
        subst same
        exact .inl ⟨'r', rfl, rfl, rfl, isPrintable_of_ascii (by decide) (by decide)⟩
      · split
        · rename_i same
          subst same
          exact .inl ⟨'t', rfl, rfl, rfl, isPrintable_of_ascii (by decide) (by decide)⟩
        · split
          · rename_i printable
            exact .inr (.inl ⟨rfl, unescaped, unmarked, printable⟩)
          · exact .inr (.inr rfl)

theorem readShown?_quotedCharacter {mark : Char} (isMark : IsMark mark) (character : Char)
    (rest : List Char) :
    readShown? (quotedCharacter mark character ++ rest) = some (character, rest) := by
  rcases quotedCharacter_cases isMark character with
    ⟨letter, shown, bare, same, -⟩ | ⟨shown, plain, -, -⟩ | shown
  · rw [shown, ← same]
    show (match escapeWidth? letter with
      | some width => readCode? width rest
      | none => some (escapedCharacter letter, rest)) = _
    rw [bare]
  · rw [shown]
    exact readShown?_of_ne plain rest
  · rw [shown]
    exact readShown?_codeEscape character rest

theorem IsMark.ne_backslash {mark : Char} (isMark : IsMark mark) : '\\' ≠ mark := by
  rcases isMark with rfl | rfl <;> decide

theorem codeEscape_eq_cons (code : Nat) :
    ∃ letter width, codeEscape code = '\\' :: letter :: hexDigits width code ∧
      isPrintable letter = true := by
  unfold codeEscape
  split
  · exact ⟨'x', 2, rfl, isPrintable_of_ascii (by decide) (by decide)⟩
  · split
    · exact ⟨'u', 4, rfl, isPrintable_of_ascii (by decide) (by decide)⟩
    · exact ⟨'U', 8, rfl, isPrintable_of_ascii (by decide) (by decide)⟩

/-- A mark in the text stands behind a backslash, so that it does not end the quoted text. -/
theorem quotedCharacter_eq_cons {mark : Char} (isMark : IsMark mark) (character : Char) :
    ∃ first later, quotedCharacter mark character = first :: later ∧ first ≠ mark := by
  rcases quotedCharacter_cases isMark character with
    ⟨letter, shown, -⟩ | ⟨shown, -, unmarked, -⟩ | shown
  · exact ⟨_, _, shown, isMark.ne_backslash⟩
  · exact ⟨_, _, shown, unmarked⟩
  · obtain ⟨letter, width, escape, -⟩ := codeEscape_eq_cons character.toNat
    exact ⟨_, _, shown.trans escape, isMark.ne_backslash⟩

theorem readInside?_quotedCharacters {mark : Char} (isMark : IsMark mark)
    (characters : List Char) :
    readInside? mark (characters.flatMap (quotedCharacter mark) ++ [mark]) = some characters := by
  induction characters with
  | nil => simp [readInside?]
  | cons character rest ih =>
      have read := readShown?_quotedCharacter isMark character
        (rest.flatMap (quotedCharacter mark) ++ [mark])
      obtain ⟨first, later, shown, apart⟩ := quotedCharacter_eq_cons isMark character
      rw [List.flatMap_cons, List.append_assoc]
      rw [shown, List.cons_append] at read ⊢
      rw [readInside?, if_neg apart]
      split
      · rename_i missing
        rw [read] at missing
        cases missing
      · rename_i found
        rw [read] at found
        cases found
        rw [ih, Option.map_some]

theorem unquote?_quoted (text : String) : unquote? (quoted text) = some text := by
  have isMark : IsMark (quoteMark text.toList) := quoteMark_eq_or text.toList
  rw [unquote?, toList_quoted, quotedCharacters]
  dsimp only
  rw [if_pos isMark, readInside?_quotedCharacters isMark, Option.map_some, String.ofList_toList]

example : quoted "it\u0007s \\n \u2028" = "'it\\x07s \\\\n \\u2028'" ∧
    unquote? "'it\\x07s \\\\n \\u2028'" = some "it\u0007s \\n \u2028" ∧
    unquote? "'it's'" = none := by decide +kernel

theorem quoted_injective {first second : String} (h : quoted first = quoted second) :
    first = second := by
  have read := unquote?_quoted first
  rw [h, unquote?_quoted] at read
  exact (Option.some.inj read).symm

theorem isPrintable_hexDigit {digit : Nat} (small : digit < 16) :
    isPrintable (hexDigit digit) = true := by
  have ascii : ' ' ≤ hexDigit digit ∧ hexDigit digit ≤ '~' := by
    revert digit
    decide
  exact isPrintable_of_ascii ascii.1 ascii.2

theorem isPrintable_of_mem_hexDigits {width number : Nat} {character : Char}
    (member : character ∈ hexDigits width number) : isPrintable character = true := by
  induction width generalizing number with
  | zero => cases member
  | succ width ih =>
      rcases List.mem_append.1 member with earlier | last
      · exact ih earlier
      · rw [List.mem_singleton.1 last]
        exact isPrintable_hexDigit (Nat.mod_lt number (by decide))

theorem isPrintable_of_mem_quotedCharacter {mark shown character : Char} (isMark : IsMark mark)
    (member : character ∈ quotedCharacter mark shown) : isPrintable character = true := by
  have backslash : isPrintable '\\' = true := isPrintable_of_ascii (by decide) (by decide)
  rcases quotedCharacter_cases isMark shown with
    ⟨letter, pair, -, -, printable⟩ | ⟨alone, -, -, printable⟩ | coded
  · rw [pair] at member
    rcases List.mem_pair.1 member with rfl | rfl
    · exact backslash
    · exact printable
  · rw [alone] at member
    rw [List.mem_singleton.1 member]
    exact printable
  · obtain ⟨letter, width, escape, printable⟩ := codeEscape_eq_cons shown.toNat
    rw [coded, escape] at member
    rcases List.mem_cons.1 member with rfl | later
    · exact backslash
    · rcases List.mem_cons.1 later with rfl | digit
      · exact printable
      · exact isPrintable_of_mem_hexDigits digit

theorem isPrintable_of_mem_quoted {text : String} {character : Char}
    (member : character ∈ (quoted text).toList) : isPrintable character = true := by
  have isMark : IsMark (quoteMark text.toList) := quoteMark_eq_or text.toList
  have printable : isPrintable (quoteMark text.toList) = true := by
    rcases isMark with single | double
    · rw [single]
      exact isPrintable_of_ascii (by decide) (by decide)
    · rw [double]
      exact isPrintable_of_ascii (by decide) (by decide)
  rw [toList_quoted] at member
  rcases List.mem_cons.1 member with rfl | later
  · exact printable
  · rcases List.mem_append.1 later with inside | last
    · obtain ⟨shown, -, found⟩ := List.mem_flatMap.1 inside
      exact isPrintable_of_mem_quotedCharacter isMark found
    · rw [List.mem_singleton.1 last]
      exact printable

/-- The text is shown between two marks, which are double ones just if it holds single marks and no
double ones, by printable characters alone, and it can be read there. -/
structure IsQuotation (text shown : String) : Prop where
  marked : ∃ mark body, shown.toList = mark :: body ++ [mark] ∧
    (mark = '"' ∧ '\'' ∈ text.toList ∧ '"' ∉ text.toList ∨
      mark = '\'' ∧ ('\'' ∈ text.toList → '"' ∈ text.toList))
  printable : ∀ character ∈ shown.toList, isPrintable character = true
  read : unquote? shown = some text

theorem isQuotation_quoted (text : String) : IsQuotation text (quoted text) := by
  refine ⟨⟨_, _, toList_quoted text, ?_⟩, fun character => isPrintable_of_mem_quoted,
    unquote?_quoted text⟩
  unfold quoteMark
  split
  · rename_i choice
    exact .inl ⟨rfl, choice⟩
  · rename_i choice
    exact .inr ⟨rfl, by simpa using choice⟩

theorem unwords_injective {first second : List String} (solid : ∀ token ∈ first, IsWord token)
    (others : ∀ token ∈ second, IsWord token) (h : unwords first = unwords second) :
    first = second := by
  rw [← words_unwords solid, h, words_unwords others]

end NarrativeScript.Text

namespace NarrativeScript

open NarrativeScript.Text

namespace Excerpt

theorem line_eq_of_annotate {message : String} {first second : Excerpt}
    (h : annotate message (some first) = annotate message (some second)) :
    first.line = second.line := by
  rw [annotate_some, annotate_some, String.append_right_inj] at h
  exact quoted_injective h

end Excerpt

namespace Script

theorem Statement.isWord_of_parse {piece : String} {statement : Statement}
    (parsed : Statement.parse piece = .ok statement) : ∀ token ∈ statement.params, IsWord token := by
  intro token member
  have inside : token ∈ statement.tokens := List.mem_cons_of_mem statement.type member
  rw [← Statement.parse_eq_ok_iff.1 parsed] at inside
  exact isWord_of_mem_words inside

end Script

namespace Excerpt

/-- A message loses nothing of the excerpt that it shows. The excerpt is quoted, and a quoted text can
be read again; so of two texts, or of two lists of words, the message tells which it shows. The
parameters of every statement that is read are such words. -/
theorem message_tells_its_excerpt (message : String) :
    (∀ excerpt : Excerpt, annotate message (some excerpt) = message ++ ": " ++ quoted excerpt.line ∧
      IsQuotation excerpt.line (quoted excerpt.line)) ∧
    (∀ first second,
      annotate message (some (.text first)) = annotate message (some (.text second)) →
        first = second) ∧
    (∀ first second, (∀ token ∈ first, IsWord token) → (∀ token ∈ second, IsWord token) →
      annotate message (some (.words first)) = annotate message (some (.words second)) →
        first = second) ∧
    ∀ piece statement, Script.Statement.parse piece = .ok statement →
      ∀ token ∈ statement.params, IsWord token :=
  ⟨fun excerpt => ⟨annotate_some message excerpt, isQuotation_quoted excerpt.line⟩,
    fun _ _ => line_eq_of_annotate,
    fun _ _ solid others same => unwords_injective solid others (line_eq_of_annotate same),
    fun _ _ => Script.Statement.isWord_of_parse⟩

/-- A backslash with an n behind it is told from a line feed, and two words are shown alike however
they were laid out. -/
theorem escape_is_told_from_what_it_shows :
    let message := "Invalid parameters"
    let laid := Text.words "\tit's\u2028a "
    let tokens := ["it's", "a"]
    annotate message (some (.text "a\\n")) ≠ annotate message (some (.text "a\n")) ∧
      annotate message (some (.text (unwords laid))) = annotate message (some (.text "it's a")) ∧
      unwords laid = "it's a" ∧
      (∀ token ∈ laid, IsWord token) ∧ (∀ token ∈ tokens, IsWord token) ∧
      annotate message (some (.words laid)) = annotate message (some (.words tokens)) ∧
      laid = tokens ∧
      ∃ statement, Script.Statement.parse "SET door\u3000open" = .ok statement ∧
        ∀ token ∈ statement.params, IsWord token := by
  intro message laid tokens
  obtain ⟨-, texts, lists, parameters⟩ := message_tells_its_excerpt message
  have solid : ∀ token ∈ laid, IsWord token := fun token => isWord_of_mem_words
  have others : ∀ token ∈ tokens, IsWord token := by decide +kernel
  have shown : annotate message (some (.words laid)) = annotate message (some (.words tokens)) := by
    decide +kernel
  have parsed : Script.Statement.parse "SET door\u3000open" =
      .ok ⟨"SET", ["door", "open"], by decide, by decide⟩ := by decide +kernel
  have joined : annotate message (some (.text (unwords laid))) =
      annotate message (some (.text "it's a")) := by decide +kernel
  refine ⟨fun same => ?_, joined, texts _ _ joined, solid, others, shown,
    lists _ _ solid others shown, _, parsed, parameters _ _ parsed⟩
  exact absurd (texts _ _ same) (by decide)

end Excerpt

end NarrativeScript
