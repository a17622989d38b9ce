import NarrativeScript.Proofs.Footprint

/-!
# Entries that count as false

A few values count as false. No statement tells an entry with such a value from
a missing one: conditions, copies and operands each pass it over in a place of
their own, and all of them as if nothing were there. Arithmetic alone writes
such values, and it writes them in both of two runs or in neither.
-/

namespace NarrativeScript

namespace Value

/-- The values that count as false. -/
def falseValues : List Value :=
  [.boolean false, .integer 0, .number (.real (.zero false)), .number (.real (.zero true)),
    .number .nan, .text ""]

theorem isTrue_number_eq_false_iff {value : Number} :
    (number value).isTrue = false ↔ value.isZero = true ∨ value.IsNan := by
  simp only [isTrue, Bool.and_eq_false_iff, Bool.not_eq_false', decide_eq_true_eq]

theorem isTrue_eq_false_iff {value : Value} : value.isTrue = false ↔ value ∈ falseValues := by
  cases value with
  | boolean flag => cases flag <;> decide
  | text content => simp [isTrue, falseValues, integer]
  | number value =>
      rw [isTrue_number_eq_false_iff]
      cases value with
      | integer value => simp [falseValues, integer, Number.isZero, Number.IsNan, Number.nan]
      | real value =>
          cases value with
          | nan => simp [falseValues, integer, Number.isZero, Number.IsNan, Number.nan]
          | infinity negative =>
              simp [falseValues, integer, Number.isZero, Number.IsNan, Number.nan,
                Number.Binary64.zero]
          | finite negative pattern =>
              cases negative <;>
                simp [falseValues, integer, Number.isZero, Number.IsNan, Number.nan,
                  Number.Binary64.zero, Fin.ext_iff]

theorem not_mem_falseValues_iff {value : Value} : value ∉ falseValues ↔ value.isTrue = true := by
  rw [← isTrue_eq_false_iff, Bool.not_eq_false]

end Value

namespace State

/-- The state without its entries that count as false; an undefined entry goes with them. -/
def cleared (state : State) : State :=
  { entries := state.entries.filter fun entry => entry.2.any fun value => value ∉ Value.falseValues
    distinct := state.distinct.sublist (List.filter_sublist.map Prod.fst) }

theorem visible?_eq_some_iff {state : State} {key : String} {value : Value} :
    state.visible? key = some value ↔
      state.slot? key = some (some value) ∧ value.isTrue = true := by
  rw [visible?, Option.filter_eq_some_iff, get?, Option.join_eq_some_iff]

/-- What is left at a key is what the state shows there. -/
theorem slot?_cleared (state : State) (key : String) :
    state.cleared.slot? key = (state.visible? key).map some := by
  ext slot
  rw [slot?_eq_some_iff, cleared, List.mem_filter, ← slot?_eq_some_iff, Option.any_eq_true,
    Option.map_eq_some_iff]
  simp only [decide_eq_true_eq, Value.not_mem_falseValues_iff]
  constructor
  · rintro ⟨held, value, rfl, counts⟩
    exact ⟨value, visible?_eq_some_iff.2 ⟨held, counts⟩, rfl⟩
  · rintro ⟨value, shown, rfl⟩
    obtain ⟨held, counts⟩ := visible?_eq_some_iff.1 shown
    exact ⟨held, value, rfl, counts⟩

/-- The states hold the same entries once all that count as false are deleted. -/
def Alike (first second : State) : Prop :=
  ∀ key, first.cleared.slot? key = second.cleared.slot? key

theorem alike_iff {first second : State} :
    first.Alike second ↔ ∀ key, first.visible? key = second.visible? key := by
  have injective : Function.Injective (Option.map (some : Value → Option Value)) :=
    Option.map_injective fun _ _ => Option.some.inj
  refine forall_congr' fun key => ?_
  rw [slot?_cleared, slot?_cleared]
  exact injective.eq_iff

theorem Alike.agreeOn {first second : State} (h : first.Alike second) (keys : List String) :
    AgreeOn keys first second :=
  fun key _ => alike_iff.1 h key

end State

namespace Script

open State

variable {first second left right : State}

theorem Parallel.alike (h : Parallel first second left right) (alike : first.Alike second) :
    left.Alike right :=
  alike_iff.2 fun key => h.agreeOn (alike.agreeOn [key]) key List.mem_cons_self

variable {σ : Type} [Dice.Source σ]

/-- Two states that differ only in entries that count as false are told apart by no script: the
runs fail alike, cast the same dice and write the same values, and the states they leave differ
in such entries only. -/
theorem false_entry_reads_as_missing (context : Context) (script : Option String)
    (alike : first.Alike second) (source : σ) :
    InStep first second (run context script ⟨first, source⟩) (run context script ⟨second, source⟩) ∧
      (run context script ⟨first, source⟩).session.state.Alike
        (run context script ⟨second, source⟩).session.state := by
  have step : InStep first second (run context script ⟨first, source⟩)
      (run context script ⟨second, source⟩) := by
    rw [run_eq_runLines_ofPiece, run_eq_runLines_ofPiece]
    exact runLines_inStep context (fun line _ => alike.agreeOn line.tokens) source
  exact ⟨step, step.entries.alike alike⟩

/-- One state holds five entries that count as false, the other one of them under the same key.
The script asks for one in a condition, then writes a zero itself and fails to copy it. -/
theorem two_runs_with_and_without_zeros :
    let script := some "IF mana == 0 THEN SET empty yes ELSE ROLL 6 luck;SUB hp 7;COPY hp life"
    let first : State := .ofList [("hp", some (.integer 7)), ("mana", some (.integer 0)),
      ("life", some (.boolean false)), ("luck", some (.number (.real (.zero true)))),
      ("name", some (.text "")), ("yes", some (.number .nan))]
    let second : State := .ofList [("name", some (.integer 0)), ("hp", some (.integer 7))]
    let source : Dice.Prepared := ⟨[3]⟩
    first.Alike second ∧
      InStep first second (run ⟨0, 32⟩ script ⟨first, source⟩) (run ⟨0, 32⟩ script ⟨second, source⟩) ∧
      (run ⟨0, 32⟩ script ⟨first, source⟩).session.state.Alike
        (run ⟨0, 32⟩ script ⟨second, source⟩).session.state := by
  intro script first second source
  have same : first.cleared = second.cleared := by decide +kernel
  have alike : first.Alike second := fun key => by rw [same]
  exact ⟨alike, false_entry_reads_as_missing ⟨0, 32⟩ script alike source⟩

end Script

end NarrativeScript
