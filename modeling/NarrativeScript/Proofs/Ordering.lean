import NarrativeScript.Condition.Operand
import NarrativeScript.Proofs.Equality

/-!
# The ordering operands

Texts are in order by code point and numbers by their place on the line, and
both are strict orders in which two different members are never level. So the
four relations fit together, and the strict equality is the one that belongs to
them: it looks at canonical forms, an ordering at readings, but a canonical form
has the reading of its value. Where a reading is missing, nothing is in order.
-/

namespace NarrativeScript

namespace Relation

/-- The strict part of a linear order. -/
structure IsStrict {α : Type} (before : α → α → Bool) : Prop where
  irrefl : ∀ place, before place place = false
  trans : ∀ {first second third}, before first second = true → before second third = true →
    before first third = true
  connected : ∀ {here there}, before here there = false → before there here = false → here = there

theorem IsStrict.asymm {α : Type} {before : α → α → Bool} (strict : IsStrict before) {here there : α}
    (h : before here there = true) : before there here = false := by
  cases back : before there here with
  | false => rfl
  | true =>
      have loop := strict.trans h back
      rw [strict.irrefl] at loop
      cases loop

theorem isStrict_before :
    IsStrict fun here there : Number.Position => decide (here.Before there) where
  irrefl place := decide_eq_false place.before_irrefl
  trans h later := decide_eq_true (Number.Position.before_trans (of_decide_eq_true h)
    (of_decide_eq_true later))
  connected {here there} h back := by
    rcases Number.Position.before_or_eq_or_before here there with first | same | second
    · exact absurd first (of_decide_eq_false h)
    · exact same
    · exact absurd second (of_decide_eq_false back)

theorem isStrict_texts : IsStrict fun first second : String => decide (first < second) where
  irrefl text := decide_eq_false (String.lt_irrefl text)
  trans h later := decide_eq_true (String.lt_trans (of_decide_eq_true h) (of_decide_eq_true later))
  connected h back := String.le_antisymm (String.not_lt.1 (of_decide_eq_false back))
    (String.not_lt.1 (of_decide_eq_false h))

end Relation

/-- The kind of the canonical form. -/
def Value.canonicalKind (value : Option Value) : Kind :=
  kind (value.map canonical)

theorem Value.numericReading_canonical (value : Option Value) :
    numericReading (value.map canonical) = numericReading value := by
  cases value with
  | none => rfl
  | some value => exact numeric_canonical value

namespace Relation

open NarrativeScript.Value

variable {left right : Option Value}

/-- The two values are in order as two members of a line are. -/
def ComparesBy {α : Type} (left right : Option Value) (before : α → α → Bool) (here there : α) :
    Prop :=
  ∀ relation : Relation, relation.holds left right = relation.between before here there

/-- Of two members of a line either the first is before the second, or it is level with that one or
behind it. -/
theorem ComparesBy.exists_holds {α : Type} {before : α → α → Bool} {here there : α}
    (h : ComparesBy left right before here there) : ∃ relation, holds relation left right = true := by
  cases first : before here there with
  | true => exact ⟨.less, (h .less).trans first⟩
  | false => exact ⟨.greaterOrEqual, (h .greaterOrEqual).trans (by rw [between, first]; rfl)⟩

theorem comparesBy_texts {first second : String} (here : left.map canonical = some (.text first))
    (there : right.map canonical = some (.text second)) :
    ComparesBy left right (fun first second => decide (first < second)) first second := by
  intro relation
  rw [holds, here, there]
  rfl

theorem holds_of_not_texts (apart : ¬ (canonicalKind left = .text ∧ canonicalKind right = .text))
    (relation : Relation) :
    relation.holds left right = relation.onNumbers (numericReading left) (numericReading right) := by
  unfold holds
  split
  · rename_i first second here there
    exact absurd ⟨by rw [canonicalKind, here]; rfl, by rw [canonicalKind, there]; rfl⟩ apart
  · rfl

theorem comparesBy_positions
    (apart : ¬ (canonicalKind left = .text ∧ canonicalKind right = .text))
    {here there : Number.Position} (found : (numericReading left).position? = some here)
    (other : (numericReading right).position? = some there) :
    ComparesBy left right (fun here there => decide (here.Before there)) here there := by
  intro relation
  rw [holds_of_not_texts apart, onNumbers, Number.related, found, other]

/-- An ordering of numbers holds only between places. -/
theorem exists_of_onNumbers {relation : Relation} {first second : Number}
    (h : relation.onNumbers first second = true) :
    ∃ here there, first.position? = some here ∧ second.position? = some there ∧
      relation.between (fun here there => decide (here.Before there)) here there = true := by
  rw [onNumbers, Number.related] at h
  split at h
  · rename_i here there found other
    exact ⟨here, there, found, other, h⟩
  · cases h

theorem exists_text_of_canonicalKind {value : Option Value} (h : canonicalKind value = .text) :
    ∃ content, value.map canonical = some (.text content) :=
  kind_eq_text_iff.1 h

theorem exists_position_of_not_isNan {number : Number} (readable : ¬ number.IsNan) :
    ∃ place, number.position? = some place :=
  Option.ne_none_iff_exists'.1 fun missing => readable (Number.position?_eq_none_iff.1 missing)

theorem onNumbers_flip (relation : Relation) (first second : Number) :
    relation.flip.onNumbers second first = relation.onNumbers first second := by
  unfold onNumbers Number.related
  cases first.position? <;> cases second.position? <;> simp only [between_flip]

/-- A relation holds of two values as the flipped one holds of them in the other order. -/
theorem holds_flip (relation : Relation) (left right : Option Value) :
    relation.flip.holds right left = relation.holds left right := by
  by_cases texts : canonicalKind left = .text ∧ canonicalKind right = .text
  · obtain ⟨first, here⟩ := exists_text_of_canonicalKind texts.1
    obtain ⟨second, there⟩ := exists_text_of_canonicalKind texts.2
    rw [comparesBy_texts there here, comparesBy_texts here there, between_flip]
  · rw [holds_of_not_texts texts, holds_of_not_texts fun swapped => texts swapped.symm,
      onNumbers_flip]

/-! ### The four relations and the strict equality -/

/-- Exactly one of less, equal and greater holds, and the other two relations are less or equal and
greater or equal. -/
structure Coherent (left right : Option Value) : Prop where
  exactlyOne : [Condition.Operand.ordering .less, .is, .ordering .greater].countP
    (fun operand => operand.apply left right) = 1
  lessOrEqual : Condition.Operand.apply (.ordering .lessOrEqual) left right = true ↔
    Condition.Operand.apply (.ordering .less) left right = true ∨
      Condition.Operand.apply .is left right = true
  greaterOrEqual : Condition.Operand.apply (.ordering .greaterOrEqual) left right = true ↔
    Condition.Operand.apply (.ordering .greater) left right = true ∨
      Condition.Operand.apply .is left right = true

/-- The relations of a strict order fit together with any equality that tells its members apart. -/
theorem coherent_of_isStrict {α : Type} {before : α → α → Bool} (strict : IsStrict before)
    {here there : α} (orders : ComparesBy left right before here there)
    (same : strictEquals left right = true ↔ here = there) : Coherent left right := by
  have apart : ∀ {first second}, before first second = true → first ≠ second := by
    rintro first _ level rfl
    rw [strict.irrefl] at level
    cases level
  cases less : before here there with
  | true =>
      have greater := strict.asymm less
      have differs : strictEquals left right = false := Bool.eq_false_iff.2 (mt same.1 (apart less))
      constructor <;> simp [Condition.Operand.apply, orders _, between, less, greater, differs]
  | false =>
      cases greater : before there here with
      | true =>
          have differs : strictEquals left right = false :=
            Bool.eq_false_iff.2 (mt same.1 (apart greater).symm)
          constructor <;> simp [Condition.Operand.apply, orders _, between, less, greater, differs]
      | false =>
          have level : strictEquals left right = true := same.2 (strict.connected less greater)
          constructor <;> simp [Condition.Operand.apply, orders _, between, less, greater, level]

/-- The canonical forms are two booleans, two numbers or two texts, and neither of them is the number
that is no number. -/
structure Comparable (left right : Option Value) : Prop where
  sameKind : canonicalKind left = canonicalKind right
  defined : canonicalKind left ≠ .undefined
  left_ne_nan : left.map canonical ≠ some (.number .nan)
  right_ne_nan : right.map canonical ≠ some (.number .nan)

theorem strictEquals_of_canonical {first second : Value} (here : left.map canonical = some first)
    (there : right.map canonical = some second) :
    strictEquals left right = first.sameKindEqual second := by
  obtain ⟨value, rfl, rfl⟩ := Option.map_eq_some_iff.1 here
  obtain ⟨other, rfl, rfl⟩ := Option.map_eq_some_iff.1 there
  rfl

theorem numericReading_of_canonical {value : Option Value} {form : Value}
    (h : value.map canonical = some form) : numericReading value = form.numeric := by
  rw [← numericReading_canonical, h]
  rfl

theorem canonicalKind_of_canonical {value : Option Value} {form : Value}
    (h : value.map canonical = some form) : canonicalKind value = kind (some form) := by
  rw [canonicalKind, h]

theorem not_texts_of_canonical {form : Value} (h : left.map canonical = some form)
    (other : kind (some form) ≠ .text) (right : Option Value) :
    ¬ (canonicalKind left = .text ∧ canonicalKind right = .text) := by
  rw [canonicalKind_of_canonical h]
  exact fun texts => other texts.1

theorem coherent_of_texts {first second : String} (here : left.map canonical = some (.text first))
    (there : right.map canonical = some (.text second)) : Coherent left right := by
  refine coherent_of_isStrict isStrict_texts (comparesBy_texts here there) ?_
  rw [strictEquals_of_canonical here there]
  exact beq_iff_eq

theorem coherent_of_numbers {first second : Number} (here : left.map canonical = some (.number first))
    (there : right.map canonical = some (.number second)) (readable : ¬ first.IsNan)
    (readableToo : ¬ second.IsNan) : Coherent left right := by
  obtain ⟨place, found⟩ := exists_position_of_not_isNan readable
  obtain ⟨other, foundToo⟩ := exists_position_of_not_isNan readableToo
  have orders := comparesBy_positions (not_texts_of_canonical here Kind.noConfusion right)
    ((congrArg Number.position? (numericReading_of_canonical here)).trans found)
    ((congrArg Number.position? (numericReading_of_canonical there)).trans foundToo)
  refine coherent_of_isStrict isStrict_before orders ?_
  rw [strictEquals_of_canonical here there]
  show first.equal second = true ↔ _
  rw [Number.equal_iff_exists, found, foundToo]
  simp [eq_comm]

/-- Two booleans are the same when the places of zero and one that they read as are. -/
theorem coherent_of_booleans {first second : Bool} (here : left.map canonical = some (.boolean first))
    (there : right.map canonical = some (.boolean second)) : Coherent left right := by
  have orders := comparesBy_positions (not_texts_of_canonical here Kind.noConfusion right)
    (congrArg Number.position? (numericReading_of_canonical here))
    (congrArg Number.position? (numericReading_of_canonical there))
  refine coherent_of_isStrict isStrict_before orders ?_
  have places := @Number.position?_integer_inj (if first then 1 else 0) (if second then 1 else 0)
  rw [Number.position?, Number.position?, Option.some.injEq] at places
  rw [strictEquals_of_canonical here there, places]
  cases first <;> cases second <;> decide

theorem coherent_of_comparable (h : Comparable left right) : Coherent left right := by
  have same := h.sameKind
  have defined := h.defined
  cases here : left.map canonical with
  | none =>
      rw [canonicalKind, here] at defined
      exact absurd rfl defined
  | some first =>
      rw [canonicalKind_of_canonical here] at same
      cases there : right.map canonical with
      | none =>
          rw [canonicalKind, there] at same
          cases first <;> cases same
      | some second =>
          rw [canonicalKind_of_canonical there] at same
          cases first with
          | boolean flag =>
              cases second with
              | boolean other => exact coherent_of_booleans here there
              | _ => cases same
          | number value =>
              cases second with
              | number other =>
                  refine coherent_of_numbers here there ?_ ?_
                  · rintro rfl
                    exact h.left_ne_nan here
                  · rintro rfl
                    exact h.right_ne_nan there
              | _ => cases same
          | text content =>
              cases second with
              | text other => exact coherent_of_texts here there
              | _ => cases same

theorem not_isNan_of_onNumbers {relation : Relation} {first second : Number}
    (h : relation.onNumbers first second = true) : ¬ first.IsNan ∧ ¬ second.IsNan := by
  obtain ⟨here, there, found, other, -⟩ := exists_of_onNumbers h
  rw [← Number.position?_eq_none_iff, ← Number.position?_eq_none_iff, found, other]
  simp

/-- No relation holds exactly where a reading is missing, and two texts are not read. -/
theorem holds_eq_false_iff :
    (∀ relation, holds relation left right = false) ↔
      ¬ (canonicalKind left = .text ∧ canonicalKind right = .text) ∧
        ((numericReading left).IsNan ∨ (numericReading right).IsNan) := by
  constructor
  · intro refused
    have unrelated : ¬ ∃ relation, holds relation left right = true := by
      rintro ⟨relation, related⟩
      rw [refused relation] at related
      cases related
    by_cases texts : canonicalKind left = .text ∧ canonicalKind right = .text
    · obtain ⟨first, here⟩ := exists_text_of_canonicalKind texts.1
      obtain ⟨second, there⟩ := exists_text_of_canonicalKind texts.2
      exact absurd (comparesBy_texts here there).exists_holds unrelated
    · refine ⟨texts, ?_⟩
      by_contra readable
      rw [not_or] at readable
      obtain ⟨here, found⟩ := exists_position_of_not_isNan readable.1
      obtain ⟨there, other⟩ := exists_position_of_not_isNan readable.2
      exact unrelated (comparesBy_positions texts found other).exists_holds
  · rintro ⟨apart, missing⟩ relation
    rw [holds_of_not_texts apart, Bool.eq_false_iff]
    intro related
    obtain ⟨readable, readableToo⟩ := not_isNan_of_onNumbers related
    exact missing.elim readable readableToo

theorem less_trans_of_texts {first second third : Option Value}
    (texts : ∀ value ∈ [first, second, third], canonicalKind value = .text)
    (h : holds .less first second = true) (later : holds .less second third = true) :
    holds .less first third = true := by
  obtain ⟨one, here⟩ := exists_text_of_canonicalKind (texts first (by simp))
  obtain ⟨two, there⟩ := exists_text_of_canonicalKind (texts second (by simp))
  obtain ⟨three, beyond⟩ := exists_text_of_canonicalKind (texts third (by simp))
  rw [comparesBy_texts here there] at h
  rw [comparesBy_texts there beyond] at later
  rw [comparesBy_texts here beyond]
  exact isStrict_texts.trans h later

theorem less_trans_of_not_texts {first second third : Option Value}
    (counted : ∀ value ∈ [first, second, third], canonicalKind value ≠ .text)
    (h : holds .less first second = true) (later : holds .less second third = true) :
    holds .less first third = true := by
  have apart : ∀ value ∈ [first, second, third], ∀ other,
      ¬ (canonicalKind value = .text ∧ canonicalKind other = .text) :=
    fun value member _ texts => counted value member texts.1
  rw [holds_of_not_texts (apart first (by simp) _)] at h
  rw [holds_of_not_texts (apart second (by simp) _)] at later
  obtain ⟨here, there, found, met, less⟩ := exists_of_onNumbers h
  obtain ⟨again, beyond, metAgain, other, lessAgain⟩ := exists_of_onNumbers later
  cases met.symm.trans metAgain
  rw [comparesBy_positions (apart first (by simp) _) found other]
  exact isStrict_before.trans less lessAgain

end Relation

namespace Condition

open NarrativeScript.Value

/-- The four ordering operands fit together. Each is another one read backwards. Of two values whose
canonical forms are of one kind, exactly one of less, equal and greater holds, and the other two
operands say what they should. No operand holds exactly where a reading is missing and not both
canonical forms are texts. And less is transitive among texts, and among numbers and booleans. -/
theorem ordering_operands_are_coherent (first second third : Option Value) :
    (∀ relation : Relation, Operand.apply (.ordering relation.flip) second first =
      Operand.apply (.ordering relation) first second) ∧
    (Relation.Comparable first second → Relation.Coherent first second) ∧
    ((∀ relation, Operand.apply (.ordering relation) first second = false) ↔
      ¬ (canonicalKind first = .text ∧ canonicalKind second = .text) ∧
        ((numericReading first).IsNan ∨ (numericReading second).IsNan)) ∧
    ((∀ value ∈ [first, second, third],
          canonicalKind value = .number ∨ canonicalKind value = .boolean) ∨
        (∀ value ∈ [first, second, third], canonicalKind value = .text) →
      Operand.apply (.ordering .less) first second = true →
        Operand.apply (.ordering .less) second third = true →
          Operand.apply (.ordering .less) first third = true) := by
  refine ⟨fun relation => relation.holds_flip first second, Relation.coherent_of_comparable,
    Relation.holds_eq_false_iff, ?_⟩
  rintro (counted | texts)
  · refine Relation.less_trans_of_not_texts fun value member text => ?_
    rcases counted value member with number | boolean
    · cases text.symm.trans number
    · cases text.symm.trans boolean
  · exact Relation.less_trans_of_texts texts

/-- A boolean is less than a text that spells two, and that is less than two and a half. A word is
in no order with any of them. -/
theorem boolean_below_text_below_fraction :
    let yes := some (Value.boolean true)
    let two := some (Value.text " +2.0")
    let half := some (Value.number (.real (.ofBits 0x4004000000000000)))
    let word := some (Value.text "gold")
    (∀ value ∈ [yes, two, half],
        canonicalKind value = .number ∨ canonicalKind value = .boolean) ∧
      Operand.apply (.ordering .less) yes two = true ∧
      Operand.apply (.ordering .less) two half = true ∧
      Operand.apply (.ordering .less) yes half = true ∧
      Relation.Comparable two half ∧ Relation.Coherent two half ∧
      ∀ relation, Operand.apply (.ordering relation) half word = false := by
  intro yes two half word
  have counted : ∀ value ∈ [yes, two, half],
      canonicalKind value = .number ∨ canonicalKind value = .boolean := by decide +kernel
  have below : Operand.apply (.ordering .less) yes two = true := by decide +kernel
  have above : Operand.apply (.ordering .less) two half = true := by decide +kernel
  have comparable : Relation.Comparable two half := by
    constructor <;> decide +kernel
  obtain ⟨-, -, -, between⟩ := ordering_operands_are_coherent yes two half
  obtain ⟨-, coherent, -, -⟩ := ordering_operands_are_coherent two half none
  obtain ⟨-, -, unrelated, -⟩ := ordering_operands_are_coherent half word none
  exact ⟨counted, below, above, between (.inl counted) below above, comparable,
    coherent comparable, unrelated.2 (by decide +kernel)⟩

end Condition

end NarrativeScript
