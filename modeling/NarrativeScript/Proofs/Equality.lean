import NarrativeScript.Proofs.PlainDecimal
import NarrativeScript.Value.Comparison

/-!
# The two equalities

Numbers are equal when they have the same place on the line, and only the number
that is no number has none. So both equalities are symmetric and hold of a value
and itself, that one number apart. The strict equality is also transitive: two
texts that spell one number have the same canonical form. The loose equality
compares two texts as they stand, which is stricter, and all else by reading,
which is looser where a boolean meets another kind or where a text spells a
number in a form that is not plain.
-/

namespace NarrativeScript

namespace Number

theorem equal_iff_exists {left right : Number} :
    left.equal right = true ↔
      ∃ place, left.position? = some place ∧ right.position? = some place := by
  rw [equal_iff, ← position?_eq_none_iff]
  constructor
  · rintro ⟨same, present⟩
    obtain ⟨place, found⟩ := Option.ne_none_iff_exists'.1 present
    exact ⟨place, found, same ▸ found⟩
  · rintro ⟨place, here, there⟩
    exact ⟨here.trans there.symm, by simp [here]⟩

theorem equal_comm (left right : Number) : left.equal right = right.equal left := by
  rw [Bool.eq_iff_iff, equal_iff_exists, equal_iff_exists]
  exact exists_congr fun _ => And.comm

theorem equal_trans {first second third : Number} (h : first.equal second = true)
    (later : second.equal third = true) : first.equal third = true := by
  obtain ⟨place, here, there⟩ := equal_iff_exists.1 h
  obtain ⟨other, again, beyond⟩ := equal_iff_exists.1 later
  cases there.symm.trans again
  exact equal_iff_exists.2 ⟨place, here, beyond⟩

theorem equal_self_iff {number : Number} : number.equal number = true ↔ ¬ number.IsNan := by
  rw [equal_iff]
  exact and_iff_right rfl

end Number

namespace Value

theorem sameKindEqual_cases {left right : Value} (h : left.sameKindEqual right = true) :
    left = right ∨ ∃ here there, left = .number here ∧ right = .number there ∧
      here.equal there = true := by
  cases left <;> cases right <;> simp_all [sameKindEqual]

theorem sameKindEqual_comm (left right : Value) :
    left.sameKindEqual right = right.sameKindEqual left := by
  cases left <;> cases right <;> simp only [sameKindEqual, Number.equal_comm, Bool.beq_comm]

theorem sameKindEqual_trans {first second third : Value} (h : first.sameKindEqual second = true)
    (later : second.sameKindEqual third = true) : first.sameKindEqual third = true := by
  rcases sameKindEqual_cases h with rfl | ⟨here, there, rfl, rfl, same⟩
  · exact later
  · rcases sameKindEqual_cases later with rfl | ⟨again, beyond, found, rfl, alike⟩
    · exact h
    · cases found
      exact Number.equal_trans same alike

theorem sameKindEqual_self_iff {value : Value} :
    value.sameKindEqual value = true ↔ value ≠ .number .nan := by
  cases value with
  | boolean flag => simp [sameKindEqual]
  | number value => simp [sameKindEqual, Number.equal_self_iff, Number.IsNan]
  | text content => simp [sameKindEqual]

theorem canonical_of_plain {content : String} (plain : spellsPlainDecimal content = true) :
    (text content).canonical = .number (text content).numeric :=
  if_pos plain

theorem canonical_of_not_plain {content : String} (other : spellsPlainDecimal content = false) :
    (text content).canonical = .text content :=
  if_neg (by simp [other])

/-- The grammars of numerals are nested, so no text has the canonical form that is no number. -/
theorem canonical_text_ne_nan (content : String) : (text content).canonical ≠ .number .nan := by
  cases plain : spellsPlainDecimal content with
  | false =>
      rw [canonical_of_not_plain plain]
      exact Value.noConfusion
  | true =>
      rw [canonical_of_plain plain]
      intro unreadable
      exact not_isNan_of_spellsPlainDecimal plain (Value.number.inj unreadable)

theorem canonical_eq_nan_iff {value : Value} :
    value.canonical = .number .nan ↔ value = .number .nan := by
  cases value with
  | boolean flag => exact Iff.rfl
  | number value => exact Iff.rfl
  | text content =>
      constructor
      · intro unreadable
        exact absurd unreadable (canonical_text_ne_nan content)
      · exact Value.noConfusion

theorem strictEquals_comm (left right : Option Value) :
    strictEquals left right = strictEquals right left := by
  cases left with
  | none => cases right <;> rfl
  | some left =>
      cases right with
      | none => rfl
      | some right => exact sameKindEqual_comm left.canonical right.canonical

theorem strictEquals_trans {first second third : Option Value}
    (h : strictEquals first second = true) (later : strictEquals second third = true) :
    strictEquals first third = true := by
  cases first with
  | none =>
      cases second with
      | none => exact later
      | some second => cases h
  | some first =>
      cases second with
      | none => cases h
      | some second =>
          cases third with
          | none => cases later
          | some third => exact sameKindEqual_trans h later

theorem strictEquals_self_iff {value : Option Value} :
    strictEquals value value = true ↔ value ≠ some (.number .nan) := by
  cases value with
  | none => simp [strictEquals]
  | some value =>
      rw [Ne, Option.some.injEq, ← canonical_eq_nan_iff]
      exact sameKindEqual_self_iff

/-- The strict equality is an equivalence, but for the number that is no number. It holds of every
text and itself, however the text is spelled. -/
theorem strict_equality_is_equivalence_apart_from_nan (first second third : Option Value) :
    strictEquals first second = strictEquals second first ∧
    (strictEquals first second = true → strictEquals second third = true →
      strictEquals first third = true) ∧
    (strictEquals first first = true ↔ first ≠ some (.number .nan)) ∧
    ∀ content, strictEquals (some (.text content)) (some (.text content)) = true := by
  refine ⟨strictEquals_comm first second, strictEquals_trans, strictEquals_self_iff, fun content => ?_⟩
  rw [strictEquals_self_iff]
  simp

/-- Two texts with different fractions meet in an integer that both are nearest to. -/
theorem fractions_beyond_precision_are_one_number :
    let integer := some (Value.integer 9007199254740992)
    let below := some (Value.text "9007199254740992.25")
    let above := some (Value.text " +9007199254740993.0")
    strictEquals below integer = true ∧ strictEquals integer above = true ∧
      strictEquals below above = true := by
  intro integer below above
  have first : strictEquals below integer = true := by decide +kernel
  have second : strictEquals integer above = true := by decide +kernel
  obtain ⟨-, meet, -⟩ := strict_equality_is_equivalence_apart_from_nan below integer above
  exact ⟨first, second, meet first second⟩

/-! ### The loose equality -/

theorem looseEqual_comm (left right : Value) : left.looseEqual right = right.looseEqual left := by
  cases left <;> cases right <;> simp only [looseEqual, Number.equal_comm, Bool.beq_comm]

theorem looseEqual_self_iff {value : Value} :
    value.looseEqual value = true ↔ value ≠ .number .nan := by
  cases value with
  | boolean flag => simp [looseEqual]
  | number value => simp [looseEqual, numeric, Number.equal_self_iff, Number.IsNan]
  | text content => simp [looseEqual]

theorem sameKindEqual_eq_looseEqual {left right : Value}
    (same : kind (some left) = kind (some right)) :
    left.sameKindEqual right = left.looseEqual right := by
  cases left <;> cases right <;> first | rfl | cases same

/-- Beside a value that is no text, a text counts by its reading, which its canonical form keeps. -/
theorem canonical_looseEqual {value : Value} (other : kind (some value) ≠ .text)
    (content : String) : (text content).canonical.looseEqual value = (text content).looseEqual value := by
  rcases canonical_text content with same | read
  · rw [same]
  · rw [read]
    cases value with
    | text _ => exact absurd rfl other
    | _ => rfl

theorem looseEqual_canonical {left right : Value}
    (apart : ¬ (kind (some left) = .text ∧ kind (some right) = .text)) :
    left.canonical.looseEqual right.canonical = left.looseEqual right := by
  cases left with
  | text content =>
      cases right with
      | text _ => exact absurd ⟨rfl, rfl⟩ apart
      | boolean flag => exact canonical_looseEqual Kind.noConfusion content
      | number value => exact canonical_looseEqual Kind.noConfusion content
  | _ =>
      cases right with
      | text content =>
          rw [looseEqual_comm, looseEqual_comm _ (text content)]
          exact canonical_looseEqual Kind.noConfusion content
      | _ => rfl

/-- But for texts that are not plain, a canonical form is a boolean or a number. -/
theorem kind_canonical {value : Value}
    (plain : ∀ content, value = .text content → IsPlainDecimal content) :
    kind (some value.canonical) = if kind (some value) = .boolean then .boolean else .number := by
  cases value with
  | boolean flag => rfl
  | number value => rfl
  | text content =>
      rw [canonical_of_plain (spellsPlainDecimal_eq_true_iff.2 (plain content rfl))]
      rfl

theorem looseEquals_comm (left right : Option Value) :
    looseEquals left right = looseEquals right left := by
  cases left with
  | none => cases right <;> rfl
  | some left =>
      cases right with
      | none => rfl
      | some right => exact looseEqual_comm left right

theorem looseEquals_self_iff {value : Option Value} :
    looseEquals value value = true ↔ value ≠ some (.number .nan) := by
  cases value with
  | none => simp [looseEquals]
  | some value =>
      rw [Ne, Option.some.injEq]
      exact looseEqual_self_iff

/-- Unless both sides are texts, values that are strictly equal are loosely equal. -/
theorem looseEquals_of_strictEquals {left right : Option Value}
    (apart : ¬ (kind left = .text ∧ kind right = .text)) (h : strictEquals left right = true) :
    looseEquals left right = true := by
  cases left with
  | none =>
      cases right with
      | none => rfl
      | some right => cases h
  | some left =>
      cases right with
      | none => cases h
      | some right =>
          show left.looseEqual right = true
          rw [← looseEqual_canonical apart]
          exact looseEqual_of_sameKindEqual h

theorem kind_eq_text_iff {value : Option Value} :
    kind value = .text ↔ ∃ content, value = some (.text content) := by
  cases value with
  | none => simp [kind]
  | some value => cases value <;> simp [kind]

/-- Texts that are loosely equal are the same, and so strictly equal. -/
theorem strictEquals_of_looseEquals {left right : Option Value} (first : kind left = .text)
    (second : kind right = .text) (h : looseEquals left right = true) :
    strictEquals left right = true := by
  obtain ⟨content, rfl⟩ := kind_eq_text_iff.1 first
  obtain ⟨other, rfl⟩ := kind_eq_text_iff.1 second
  have same : content = other := by simpa [looseEquals, looseEqual] using h
  subst same
  exact strictEquals_self_iff.2 (by simp)

theorem looseEquals_eq_strictEquals {left right : Option Value}
    (apart : ¬ (kind left = .text ∧ kind right = .text))
    (booleans : kind left = .boolean ↔ kind right = .boolean)
    (plainLeft : ∀ content, left = some (.text content) → IsPlainDecimal content)
    (plainRight : ∀ content, right = some (.text content) → IsPlainDecimal content) :
    looseEquals left right = strictEquals left right := by
  cases left with
  | none => cases right <;> rfl
  | some left =>
      cases right with
      | none => rfl
      | some right =>
          have alike : kind (some left.canonical) = kind (some right.canonical) := by
            rw [kind_canonical fun content same => plainLeft content (congrArg some same),
              kind_canonical fun content same => plainRight content (congrArg some same)]
            simp only [booleans]
          show left.looseEqual right = left.canonical.sameKindEqual right.canonical
          rw [sameKindEqual_eq_looseEqual alike, looseEqual_canonical apart]

/-- The loose equality is symmetric and holds of a value and itself, but for the number that is no
number. Between two texts it is the stricter of the two equalities, and elsewhere the looser. They
agree where not both sides are texts, a boolean faces only a boolean, and each text is plain. -/
theorem loose_equality_against_strict_equality (left right : Option Value) :
    looseEquals left right = looseEquals right left ∧
    (looseEquals left left = true ↔ left ≠ some (.number .nan)) ∧
    (¬ (kind left = .text ∧ kind right = .text) → strictEquals left right = true →
      looseEquals left right = true) ∧
    (kind left = .text → kind right = .text → looseEquals left right = true →
      strictEquals left right = true) ∧
    (¬ (kind left = .text ∧ kind right = .text) → (kind left = .boolean ↔ kind right = .boolean) →
      (∀ content, left = some (.text content) → IsPlainDecimal content) →
        (∀ content, right = some (.text content) → IsPlainDecimal content) →
          looseEquals left right = strictEquals left right) :=
  ⟨looseEquals_comm left right, looseEquals_self_iff, looseEquals_of_strictEquals,
    strictEquals_of_looseEquals, looseEquals_eq_strictEquals⟩

/-- An integer equals a padded decimal in both ways, and a word equals itself in both ways. -/
theorem one_equals_padded_decimal_and_word_equals_itself :
    let one := some (Value.integer 1)
    let padded := some (Value.text "\t+01.0 ")
    let word := some (Value.text "one")
    (¬ (kind one = .text ∧ kind padded = .text) ∧ strictEquals one padded = true ∧
        (kind one = .boolean ↔ kind padded = .boolean) ∧
        (∀ content, padded = some (.text content) → IsPlainDecimal content) ∧
        looseEquals one padded = true ∧ looseEquals one padded = strictEquals one padded) ∧
      kind word = .text ∧ looseEquals word word = true ∧ strictEquals word word = true := by
  intro one padded word
  have apart : ¬ (kind one = .text ∧ kind padded = .text) := by decide
  have booleans : kind one = .boolean ↔ kind padded = .boolean := by decide
  have plain : ∀ content, padded = some (.text content) → IsPlainDecimal content := by
    intro content same
    rw [← Value.text.inj (Option.some.inj same)]
    decide +kernel
  have equal : strictEquals one padded = true := by decide +kernel
  obtain ⟨-, -, loosened, -, agree⟩ := loose_equality_against_strict_equality one padded
  obtain ⟨-, reflexive, -, tightened, -⟩ := loose_equality_against_strict_equality word word
  have itself : looseEquals word word = true := reflexive.2 (by simp [word])
  exact ⟨⟨apart, equal, booleans, plain, loosened apart equal,
    agree apart booleans (by simp [one, Value.integer]) plain⟩, rfl, itself,
    tightened rfl rfl itself⟩

end Value

end NarrativeScript
