import Mathlib.Data.List.Basic
import Mathlib.Data.List.TakeWhile
import NarrativeScript.Value.Basic

/-!
# Plain decimals

A plain decimal is an optional sign, digits, and perhaps a point with digits
behind it; a text spells one that has nothing but blanks around it. The reader
of numerals finds a plain numeral exactly where this grammar derives the text.
Whatever numeral it finds, the text reads as a number.
-/

namespace NarrativeScript

namespace Text

theorem dropWhile_append_of_solid {outside : Char → Bool} {first : List Char} (filled : first ≠ [])
    (solid : ∀ character ∈ first, outside character = false) (rest : List Char) :
    (first ++ rest).dropWhile outside = first ++ rest := by
  obtain ⟨character, later, rfl⟩ := List.exists_cons_of_ne_nil filled
  rw [List.cons_append, List.dropWhile_cons_of_neg]
  simp [solid character List.mem_cons_self]

theorem trimBy_of_surrounded {outside : Char → Bool} {before body after : List Char}
    (leading : ∀ character ∈ before, outside character = true)
    (trailing : ∀ character ∈ after, outside character = true) (filled : body ≠ [])
    (solid : ∀ character ∈ body, outside character = false) :
    trimBy outside (before ++ body ++ after) = body := by
  have reversed : (after.reverse ++ body.reverse).dropWhile outside = body.reverse := by
    rw [List.dropWhile_append_of_pos (by simpa using trailing), ← List.append_nil body.reverse]
    exact dropWhile_append_of_solid (by simpa using filled) (by simpa using solid) []
  rw [trimBy, List.append_assoc, List.dropWhile_append_of_pos leading,
    dropWhile_append_of_solid filled solid, List.reverse_append, reversed, List.reverse_reverse]

theorem exists_surroundings (outside : Char → Bool) (characters : List Char) :
    ∃ before after, (∀ character ∈ before, outside character = true) ∧
      (∀ character ∈ after, outside character = true) ∧
        characters = before ++ trimBy outside characters ++ after := by
  let rest := characters.dropWhile outside
  refine ⟨characters.takeWhile outside, (rest.reverse.takeWhile outside).reverse,
    fun character => List.mem_takeWhile_imp, ?_, ?_⟩
  · intro character inside
    exact List.mem_takeWhile_imp (List.mem_reverse.1 inside)
  · rw [trimBy, List.append_assoc, ← List.reverse_append, List.takeWhile_append_dropWhile,
      List.reverse_reverse, List.takeWhile_append_dropWhile]

theorem not_isBlank_of_digit {character : Char} (h : '0' ≤ character ∧ character ≤ '9') :
    isBlank character = false := by
  have lower : '0'.toNat ≤ character.toNat := UInt32.le_iff_toNat_le.1 h.1
  have upper : character.toNat ≤ '9'.toNat := UInt32.le_iff_toNat_le.1 h.2
  have lowest : '0'.toNat = 48 := by decide
  have highest : '9'.toNat = 57 := by decide
  rw [← Bool.not_eq_true]
  simp only [isBlank, isSpace, Bool.or_eq_true, Bool.and_eq_true, decide_eq_true_eq, beq_iff_eq]
  omega

end Text

namespace Number

open NarrativeScript.Text

/-- Only digits, and at least one of them. -/
def IsDigits (characters : List Char) : Prop :=
  characters ≠ [] ∧ ∀ character ∈ characters, '0' ≤ character ∧ character ≤ '9'

/-- The reader takes digits up to where they end. -/
theorem takeDigits_append {digits rest : List Char}
    (ascii : ∀ character ∈ digits, '0' ≤ character ∧ character ≤ '9')
    (stop : takeDigits rest = ([], rest)) :
    takeDigits (digits ++ rest) = (digits.filterMap asciiDigit?, rest) := by
  induction digits with
  | nil => exact stop
  | cons first later ih =>
      obtain ⟨digit, found⟩ := Option.isSome_iff_exists.1
        (asciiDigit?_isSome_iff.2 (ascii first List.mem_cons_self))
      have tail := ih fun character inside => ascii character (List.mem_cons_of_mem first inside)
      simp [takeDigits, found, tail]

theorem exists_takeDigits (characters : List Char) :
    ∃ digits, (∀ character ∈ digits, '0' ≤ character ∧ character ≤ '9') ∧
      (takeDigits characters).1 = digits.filterMap asciiDigit? ∧
        characters = digits ++ (takeDigits characters).2 := by
  induction characters with
  | nil => exact ⟨[], by simp, rfl, rfl⟩
  | cons first rest ih =>
      unfold takeDigits
      split
      · rename_i digit found
        obtain ⟨digits, ascii, values, cut⟩ := ih
        refine ⟨first :: digits, ?_, by simp [found, values], by rw [List.cons_append, ← cut]⟩
        intro character inside
        rcases List.mem_cons.1 inside with rfl | later
        · exact asciiDigit?_isSome_iff.1 (by rw [found]; rfl)
        · exact ascii character later
      · exact ⟨[], by simp, rfl, rfl⟩

/-! ### The grammar -/

def IsSign (characters : List Char) : Prop :=
  characters = [] ∨ characters = ['-'] ∨ characters = ['+']

/-- Nothing, or a point with digits behind it. -/
def IsFraction (characters : List Char) : Prop :=
  characters = [] ∨ ∃ digits, IsDigits digits ∧ characters = '.' :: digits

/-- The sign, the digits and the fraction of a plain decimal, one behind the other. -/
def SpellsPlain (characters : List Char) : Prop :=
  ∃ sign whole fraction, IsSign sign ∧ IsDigits whole ∧ IsFraction fraction ∧
    characters = sign ++ whole ++ fraction

theorem takeDigits_of_isFraction {fraction : List Char} (h : IsFraction fraction) :
    takeDigits fraction = ([], fraction) := by
  rcases h with rfl | ⟨digits, -, rfl⟩
  · rfl
  · rfl

theorem IsDigits.filterMap_ne_nil {digits : List Char} (h : IsDigits digits) :
    digits.filterMap asciiDigit? ≠ [] := by
  obtain ⟨first, rest, rfl⟩ := List.exists_cons_of_ne_nil h.1
  obtain ⟨digit, found⟩ := Option.isSome_iff_exists.1
    (asciiDigit?_isSome_iff.2 (h.2 first List.mem_cons_self))
  simp [found]

theorem exists_takeSign (characters : List Char) :
    ∃ sign, IsSign sign ∧ characters = sign ++ (takeSign characters).2 := by
  unfold takeSign
  split
  · exact ⟨['-'], .inr (.inl rfl), rfl⟩
  · exact ⟨['+'], .inr (.inr rfl), rfl⟩
  · exact ⟨[], .inl rfl, rfl⟩

/-- A digit is no sign, so the sign before it is all that is taken. -/
theorem takeSign_append {sign whole : List Char} (isSign : IsSign sign) (isDigits : IsDigits whole)
    (rest : List Char) : (takeSign (sign ++ (whole ++ rest))).2 = whole ++ rest := by
  rcases isSign with rfl | rfl | rfl
  · obtain ⟨first, later, rfl⟩ := List.exists_cons_of_ne_nil isDigits.1
    obtain ⟨lower, -⟩ := isDigits.2 first List.mem_cons_self
    simp only [List.nil_append, List.cons_append]
    unfold takeSign
    split
    · rename_i same
      cases same
      exact absurd lower (by decide)
    · rename_i same
      cases same
      exact absurd lower (by decide)
    · rfl
  · rfl
  · rfl

theorem isFraction_iff {characters : List Char} :
    IsFraction characters ↔
      (takeFraction characters).1 ≠ some [] ∧ (takeFraction characters).2 = [] := by
  constructor
  · rintro (rfl | ⟨digits, isDigits, rfl⟩)
    · exact ⟨by simp [takeFraction], rfl⟩
    · have taken := takeDigits_append isDigits.2 (rfl : takeDigits [] = ([], []))
      rw [List.append_nil] at taken
      rw [takeFraction, taken]
      exact ⟨by simpa using isDigits.filterMap_ne_nil, rfl⟩
  · unfold takeFraction
    split
    · rename_i rest
      rintro ⟨filled, ended⟩
      obtain ⟨digits, ascii, -, cut⟩ := exists_takeDigits rest
      dsimp only at ended filled
      rw [ended, List.append_nil] at cut
      refine .inr ⟨rest, ⟨?_, cut ▸ ascii⟩, rfl⟩
      rintro rfl
      exact filled rfl
    · rintro ⟨-, ended⟩
      exact .inl ended

theorem readExponent?_eq_some_none_iff {characters : List Char} :
    readExponent? characters = some none ↔ characters = [] := by
  cases characters with
  | nil => simp [readExponent?]
  | cons letter rest =>
      simp only [readExponent?, reduceCtorEq, iff_false]
      split
      · split <;> simp
      · simp

theorem exists_isPlain_iff {characters : List Char} :
    (∃ numeral, Numeral.read? characters = some numeral ∧ numeral.IsPlain) ↔
      (takeDigits (takeSign characters).2).1 ≠ [] ∧
        IsFraction (takeDigits (takeSign characters).2).2 := by
  simp only [Numeral.read?, isFraction_iff]
  generalize takeDigits (takeSign characters).2 = taken
  obtain ⟨whole, rest⟩ := taken
  generalize takeFraction rest = behind
  obtain ⟨fraction, rest⟩ := behind
  constructor
  · rintro ⟨numeral, read, plain⟩
    split at read
    · cases read
    · obtain ⟨exponent, found, rfl⟩ := Option.map_eq_some_iff.1 read
      obtain ⟨filled, followed, absent⟩ := plain
      cases absent
      exact ⟨filled, followed, readExponent?_eq_some_none_iff.1 found⟩
  · rintro ⟨filled, followed, ended⟩
    cases ended
    refine ⟨⟨(takeSign characters).1, whole, fraction, none⟩, ?_, filled, followed, rfl⟩
    rw [if_neg (by simpa using fun empty => absurd empty filled)]
    rfl

/-- The reader finds a plain numeral exactly in what the grammar derives. -/
theorem exists_isPlain_iff_spellsPlain {characters : List Char} :
    (∃ numeral, Numeral.read? characters = some numeral ∧ numeral.IsPlain) ↔
      SpellsPlain characters := by
  rw [exists_isPlain_iff]
  constructor
  · rintro ⟨filled, isFraction⟩
    obtain ⟨sign, isSign, cut⟩ := exists_takeSign characters
    obtain ⟨whole, ascii, values, split⟩ := exists_takeDigits (takeSign characters).2
    refine ⟨sign, whole, _, isSign, ⟨?_, ascii⟩, isFraction, ?_⟩
    · rintro rfl
      exact filled values
    · rw [List.append_assoc, ← split]
      exact cut
  · rintro ⟨sign, whole, fraction, isSign, isDigits, isFraction, rfl⟩
    rw [List.append_assoc, takeSign_append isSign isDigits,
      takeDigits_append isDigits.2 (takeDigits_of_isFraction isFraction)]
    exact ⟨isDigits.filterMap_ne_nil, isFraction⟩

theorem SpellsPlain.not_isBlank {characters : List Char} (h : SpellsPlain characters) :
    ∀ character ∈ characters, isBlank character = false := by
  obtain ⟨sign, whole, fraction, isSign, isDigits, isFraction, rfl⟩ := h
  have signed : ∀ character ∈ sign, isBlank character = false := by
    have minus : isBlank '-' = false := by decide
    have plus : isBlank '+' = false := by decide
    rcases isSign with rfl | rfl | rfl <;> simp [minus, plus]
  have fractional : ∀ character ∈ fraction, isBlank character = false := by
    rcases isFraction with rfl | ⟨digits, areDigits, rfl⟩
    · simp
    · refine List.forall_mem_cons.2 ⟨by decide, fun character inside => ?_⟩
      exact not_isBlank_of_digit (areDigits.2 character inside)
  intro character inside
  rcases List.mem_append.1 inside with front | behind
  · rcases List.mem_append.1 front with mark | digit
    · exact signed character mark
    · exact not_isBlank_of_digit (isDigits.2 character digit)
  · exact fractional character behind

theorem SpellsPlain.ne_nil {characters : List Char} (h : SpellsPlain characters) :
    characters ≠ [] := by
  obtain ⟨sign, whole, fraction, -, isDigits, -, rfl⟩ := h
  simp [isDigits.1]

/-- Whatever numeral a text is, the text reads as a number. -/
theorem not_isNan_ofText {characters : List Char} {numeral : Numeral}
    (read : Numeral.read? characters = some numeral) : ¬ (ofText characters).IsNan := by
  have filled : characters ≠ [] := by
    rintro rfl
    cases read
  rw [ofText, if_neg filled, read]
  dsimp only
  cases numeral.integer? with
  | some value => exact Number.noConfusion
  | none =>
      intro unreadable
      exact numeral.toBinary64_ne_nan (Number.real.inj unreadable)

end Number

namespace Value

open NarrativeScript.Text NarrativeScript.Number

/-- The text spells a plain decimal and has nothing but blanks around it. -/
def IsPlainDecimal (content : String) : Prop :=
  ∃ before body after, (∀ character ∈ before, isBlank character = true) ∧
    (∀ character ∈ after, isBlank character = true) ∧ SpellsPlain body ∧
      content.toList = before ++ body ++ after

theorem spellsPlainDecimal_eq_true_iff {content : String} :
    spellsPlainDecimal content = true ↔ IsPlainDecimal content := by
  rw [spellsPlainDecimal_iff, exists_isPlain_iff_spellsPlain, trimmed]
  constructor
  · intro spells
    obtain ⟨before, after, leading, trailing, cut⟩ := exists_surroundings isBlank content.toList
    exact ⟨before, _, after, leading, trailing, spells, cut⟩
  · rintro ⟨before, body, after, leading, trailing, spells, cut⟩
    rw [cut, trimBy_of_surrounded leading trailing spells.ne_nil spells.not_isBlank]
    exact spells

instance : DecidablePred IsPlainDecimal :=
  fun _ => decidable_of_iff _ spellsPlainDecimal_eq_true_iff

example : IsPlainDecimal " +01.50\n" ∧ ¬ IsPlainDecimal "5." ∧ ¬ IsPlainDecimal "1e3" ∧
    ¬ IsPlainDecimal "0x10" := by decide +kernel

theorem not_isNan_of_spellsPlainDecimal {content : String}
    (plain : spellsPlainDecimal content = true) : ¬ (text content).numeric.IsNan := by
  obtain ⟨numeral, read, -⟩ := spellsPlainDecimal_iff.1 plain
  exact not_isNan_ofText read

end Value

end NarrativeScript
