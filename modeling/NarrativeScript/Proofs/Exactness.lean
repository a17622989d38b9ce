import NarrativeScript.Proofs.Footprint
import NarrativeScript.Proofs.Observation

/-!
# Scripts of integers

A value is exact when it is a boolean, an integer, or a text that reads as an
integer or as no number at all. A script made of exact tokens keeps a state of
exact values exact: no binary64 number comes up, so nothing is ever rounded, and
arithmetic writes the integer that it should.
-/

namespace NarrativeScript

namespace Number

def IsInteger : Number → Prop
  | .integer _ => True
  | .real _ => False

instance : DecidablePred IsInteger
  | .integer _ => .isTrue trivial
  | .real _ => .isFalse id

theorem isInteger_iff {number : Number} : number.IsInteger ↔ ∃ value, number = .integer value := by
  cases number with
  | integer value => exact ⟨fun _ => ⟨value, rfl⟩, fun _ => trivial⟩
  | real value =>
      constructor
      · intro impossible
        exact impossible.elim
      · rintro ⟨_, impossible⟩
        cases impossible

/-- What an operation gives on two integers: their sum, their difference or their product. -/
inductive Operation.Gives : Operation → Int → Int → Int → Prop where
  | sum (first second : Int) : Gives .add first second (first + second)
  | difference (first second : Int) : Gives .sub first second (first - second)
  | product (first second : Int) : Gives .mul first second (first * second)

/-- Integers meet without rounding. -/
theorem Operation.gives_of_result? {operation : Operation} {first second : Int} {result : Number}
    (h : operation.result? (.integer first) (.integer second) = some result) :
    ∃ value, operation.Gives first second value ∧ result = .integer value := by
  cases operation with
  | add => exact ⟨_, .sum first second, (Option.some.inj h).symm⟩
  | sub => exact ⟨_, .difference first second, (Option.some.inj h).symm⟩
  | mul => exact ⟨_, .product first second, (Option.some.inj h).symm⟩

end Number

namespace Value

/-- A number is an integer, and a text reads as an integer or as no number. -/
def IsExact : Value → Prop
  | .boolean _ => True
  | .number held => held.IsInteger
  | .text content => (text content).numeric.IsNan ∨ (text content).numeric.IsInteger

instance : DecidablePred IsExact
  | .boolean _ => .isTrue trivial
  | .number held => inferInstanceAs (Decidable held.IsInteger)
  | .text content =>
      inferInstanceAs (Decidable ((text content).numeric.IsNan ∨ (text content).numeric.IsInteger))

/-- An exact value that reads as a number reads as an integer. -/
theorem IsExact.numeric {value : Value} (h : value.IsExact) (readable : ¬ value.numeric.IsNan) :
    ∃ number, value.numeric = .integer number := by
  cases value with
  | boolean flag => exact ⟨_, rfl⟩
  | number held => exact Number.isInteger_iff.1 h
  | text content => exact Number.isInteger_iff.1 (h.resolve_left readable)

theorem isExact_integer (number : Int) : (integer number).IsExact := trivial

end Value

namespace State

/-- Every value that the state holds is exact. -/
def IsExact (state : State) : Prop :=
  ∀ key value, state.get? key = some value → value.IsExact

instance : DecidablePred IsExact := fun _ => decidable_of_iff _ forall_get?_iff.symm

theorem IsExact.set {state : State} (h : state.IsExact) (key : String) {value : Value}
    (exact : value.IsExact) : (state.set key value).IsExact := by
  intro other held found
  rw [get?_set] at found
  split at found
  · cases found
    assumption
  · exact h other held found

end State

namespace Script

open NarrativeScript.Text

theorem isExact_of_operandValue? {state : State} (exact : state.IsExact) {token : String}
    {value : Value} (h : operandValue? state token = some value) : value.IsExact := by
  have found := (Option.filter_eq_some_iff.1 h).1
  cases spelled : Value.integerLiteral? token with
  | some number =>
      rw [spelled] at found
      cases found
      exact Value.isExact_integer number
  | none =>
      rw [spelled] at found
      exact exact token value found

theorem operandNumber_integer {state : State} (exact : state.IsExact) {token : String}
    {number : Number} (h : operandNumber state token = .ok number) :
    ∃ value, number = .integer value := by
  unfold operandNumber at h
  split at h
  · cases h
  · rename_i value found
    split at h
    · cases h
    · rename_i readable
      split at h
      · cases h
        exact (isExact_of_operandValue? exact found).numeric readable
      · cases h

/-- The operands of arithmetic in an exact state are integers, and so is its result: their sum, their
difference or their product. -/
theorem calculate_integer {state : State} (exact : state.IsExact) {operation : Number.Operation}
    {left right : String} {result : Number} (h : calculate state operation left right = .ok result) :
    ∃ first second value : Int, operandNumber state left = .ok (.integer first) ∧
      operandNumber state right = .ok (.integer second) ∧ operation.Gives first second value ∧
        result = .integer value := by
  obtain ⟨_, _, here, there, computed⟩ := calculate_eq_ok_iff.1 h
  obtain ⟨first, rfl⟩ := operandNumber_integer exact here
  obtain ⟨second, rfl⟩ := operandNumber_integer exact there
  obtain ⟨value, gives, same⟩ := Number.Operation.gives_of_result? computed
  exact ⟨first, second, value, here, there, gives, same⟩

variable {σ : Type} [Dice.Source σ]

/-- What an action writes is a parameter of it, a value that the state holds, a roll or a result of
arithmetic; from exact tokens and values each of these is exact. -/
theorem Action.isExact_of_written {action : Action} {state : State} {source rest : σ} {value : Value}
    (exact : state.IsExact) (plain : ∀ param ∈ action.params, (Value.text param).IsExact)
    (h : action.written state source = .ok (value, rest)) : value.IsExact := by
  rcases written_cases h with ⟨content, member, rfl, -, -⟩ | ⟨origin, -, held, -, -⟩ |
    ⟨size, key, die, -, -, rfl, -⟩ | ⟨operation, left, right, result, rfl, computed, rfl, -⟩
  · exact plain content member
  · exact exact origin value held
  · exact Value.isExact_integer _
  · obtain ⟨-, -, value, -, -, -, rfl⟩ := calculate_integer exact computed
    exact Value.isExact_integer _

theorem runPieces_isExact {context : Context} {texts : List String}
    (single : ∀ piece ∈ texts, ';' ∉ piece.toList)
    (plain : ∀ piece ∈ texts, ∀ token ∈ words piece, (Value.text token).IsExact)
    {session : Session σ} (exact : session.state.IsExact) :
    (runPieces (enter context) texts session).session.state.IsExact := by
  rw [runPieces_eq_runLines context single]
  refine runLines_preserves (fun line member state source action value rest target written kept => ?_)
    exact
  obtain ⟨piece, cut, rfl⟩ := List.mem_map.1 member
  obtain ⟨-, params⟩ := mem_of_descend target
  exact kept.set _ (Action.isExact_of_written kept
    (fun param inside => plain piece cut param (params param inside)) written)

/-- Arithmetic that is carried out in an exact state stores the sum, the difference or the product of
two integers. -/
theorem CarriesOut.integer {context : Context} {piece : String} {session after : Session σ}
    {operation : Number.Operation} {left right : String}
    (h : CarriesOut context piece session (.arithmetic operation left right) after)
    (exact : session.state.IsExact) :
    ∃ first second value : Int, operandNumber session.state left = .ok (.integer first) ∧
      operandNumber session.state right = .ok (.integer second) ∧
      operation.Gives first second value ∧
        after.state = session.state.set left (.integer value) := by
  obtain ⟨value, written, stored⟩ := h.written
  obtain ⟨result, computed, rfl, -⟩ := Action.written_arithmetic written
  obtain ⟨first, second, value, here, there, gives, rfl⟩ := calculate_integer exact computed
  exact ⟨first, second, value, here, there, gives, stored⟩

/-- A script of exact tokens, run from a state of exact values, comes to such states only, whether
it fails or not, and every sum, difference and product on its way is that of integers. -/
theorem exact_script_computes_in_integers {context : Context} {script : Option String}
    {session : Session σ} (exact : session.state.IsExact)
    (plain : ∀ token ∈ scriptTokens script, (Value.text token).IsExact) :
    (run context script session).session.state.IsExact ∧
      (∀ before after, pieces script = before ++ after →
        (runPieces (enter context) before session).session.state.IsExact) ∧
      ∀ before piece after reached next operation left right,
        pieces script = before ++ piece :: after →
        runPieces (enter context) before session = .done reached →
        CarriesOut context piece reached (.arithmetic operation left right) next →
          ∃ first second : Int, operandNumber reached.state left = .ok (.integer first) ∧
            operandNumber reached.state right = .ok (.integer second) ∧
            (operation = .add →
              next.state = reached.state.set left (.integer (first + second))) ∧
            (operation = .sub →
              next.state = reached.state.set left (.integer (first - second))) ∧
            (operation = .mul →
              next.state = reached.state.set left (.integer (first * second))) := by
  have prefixes : ∀ before after, pieces script = before ++ after →
      (runPieces (enter context) before session).session.state.IsExact := by
    intro before after cut
    have inside : ∀ piece ∈ before, piece ∈ pieces script := by
      intro piece member
      rw [cut]
      exact List.mem_append_left after member
    exact runPieces_isExact (fun piece member => not_mem_of_mem_pieces (inside piece member))
      (fun piece member token spelled =>
        plain token (List.mem_flatMap.2 ⟨piece, inside piece member, spelled⟩)) exact
  refine ⟨?_, prefixes, ?_⟩
  · rw [run_eq]
    exact prefixes (pieces script) [] (List.append_nil _).symm
  · intro before piece after reached next operation left right cut succeeded carried
    have kept := prefixes before (piece :: after) cut
    rw [succeeded] at kept
    obtain ⟨first, second, value, here, there, gives, stored⟩ := carried.integer kept
    refine ⟨first, second, here, there, ?_, ?_, ?_⟩
    all_goals
      rintro rfl
      cases gives
      exact stored

/-- A marked and a padded integer are added, a debt of twelve is left of the sum and multiplied in a
branch, and a word that reads as no number stops the run. -/
theorem sum_difference_and_product_of_spelled_integers :
    let addition := "ADD gold coins"
    let subtraction := "SUB gold 40"
    let multiplication := "IF gold < 0 THEN MUL gold coins ELSE GOTO inn"
    let script := some ("ADD gold coins;SUB gold 40;" ++ multiplication ++ ";SUB gold hero")
    let session : Session Dice.Prepared := ⟨.ofList [("gold", some (.text "0x10")),
      ("coins", some (.text " 12 ")), ("hero", some (.text "ada")), ("map", some (.boolean true))],
      ⟨[]⟩⟩
    let holding := fun gold : Int => session.set "gold" (.integer gold)
    let context : Context := ⟨0, 32⟩
    (session.state.IsExact ∧ (∀ token ∈ scriptTokens script, (Value.text token).IsExact)) ∧
      (run context script session).session.state.IsExact ∧
      (run context script session).failure? = some (.undefinedValue "hero") ∧
      (CarriesOut context addition session (.arithmetic .add "gold" "coins") (holding 28) ∧
        (holding 28).state = session.state.set "gold" (.integer (16 + 12))) ∧
      (CarriesOut context subtraction (holding 28) (.arithmetic .sub "gold" "40") (holding (-12)) ∧
        (holding (-12)).state = (holding 28).state.set "gold" (.integer (28 - 40))) ∧
      CarriesOut context multiplication (holding (-12)) (.arithmetic .mul "gold" "coins")
          (holding (-144)) ∧
        (holding (-144)).state = (holding (-12)).state.set "gold" (.integer (-12 * 12)) := by
  intro addition subtraction multiplication script session holding context
  have exact : session.state.IsExact := by decide +kernel
  have plain : ∀ token ∈ scriptTokens script, (Value.text token).IsExact := by decide +kernel
  have cut : pieces script = [addition, subtraction, multiplication, "SUB gold hero"] := by
    decide +kernel
  have added : CarriesOut context addition session (.arithmetic .add "gold" "coins") (holding 28) := by
    have turn : (Line.ofPiece addition).turn session.state =
        .simple (.arithmetic .add) ["gold", "coins"] := by decide +kernel
    exact ⟨by decide, descend_of_turn_simple turn,
      Outcome.eq_done_of (by decide +kernel) (by decide +kernel) (by decide +kernel)⟩
  have subtracted : CarriesOut context subtraction (holding 28) (.arithmetic .sub "gold" "40")
      (holding (-12)) := by
    have turn : (Line.ofPiece subtraction).turn (holding 28).state =
        .simple (.arithmetic .sub) ["gold", "40"] := by decide +kernel
    exact ⟨by decide, descend_of_turn_simple turn,
      Outcome.eq_done_of (by decide +kernel) (by decide +kernel) (by decide +kernel)⟩
  have multiplied : CarriesOut context multiplication (holding (-12))
      (.arithmetic .mul "gold" "coins") (holding (-144)) := by
    have turn : (Line.ofPiece multiplication).turn (holding (-12)).state =
        .enter ["MUL", "gold", "coins"] := by decide +kernel
    have branch : (Line.ofBranch ["MUL", "gold", "coins"]).turn (holding (-12)).state =
        .simple (.arithmetic .mul) ["gold", "coins"] := by decide +kernel
    exact ⟨by decide,
      (descend_of_turn_enter turn rfl (by decide)).trans (descend_of_turn_simple branch),
      Outcome.eq_done_of (by decide +kernel) (by decide +kernel) (by decide +kernel)⟩
  have one : runPieces (enter context) [addition] session = .done (holding 28) := by
    rw [runPieces, added.success]
    rfl
  have two : runPieces (enter context) [addition, subtraction] session = .done (holding (-12)) := by
    rw [runPieces, added.success, Outcome.andThen_done, runPieces, subtracted.success]
    rfl
  have sixteen : operandNumber session.state "gold" = .ok (.integer 16) := by decide +kernel
  have twelve : operandNumber session.state "coins" = .ok (.integer 12) := by decide +kernel
  have most : operandNumber (holding 28).state "gold" = .ok (.integer 28) := by decide +kernel
  have forty : operandNumber (holding 28).state "40" = .ok (.integer 40) := by decide +kernel
  have debt : operandNumber (holding (-12)).state "gold" = .ok (.integer (-12)) := by decide +kernel
  have dozen : operandNumber (holding (-12)).state "coins" = .ok (.integer 12) := by decide +kernel
  obtain ⟨final, -, computes⟩ := exact_script_computes_in_integers exact plain
  refine ⟨⟨exact, plain⟩, final, by decide +kernel, ⟨added, ?_⟩, ⟨subtracted, ?_⟩, multiplied, ?_⟩
  · obtain ⟨first, second, here, there, sum, -, -⟩ := computes [] _ _ _ _ _ _ _ cut rfl added
    cases here.symm.trans sixteen
    cases there.symm.trans twelve
    exact sum rfl
  · obtain ⟨first, second, here, there, -, difference, -⟩ :=
      computes [addition] _ _ _ _ _ _ _ cut one subtracted
    cases here.symm.trans most
    cases there.symm.trans forty
    exact difference rfl
  · obtain ⟨first, second, here, there, -, -, product⟩ :=
      computes [addition, subtraction] _ _ _ _ _ _ _ cut two multiplied
    cases here.symm.trans debt
    cases there.symm.trans dozen
    exact product rfl

end Script

end NarrativeScript
