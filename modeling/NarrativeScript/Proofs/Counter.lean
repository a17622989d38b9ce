import Mathlib.Data.Nat.Find
import NarrativeScript.Proofs.Dispatch
import NarrativeScript.Proofs.Layout
import NarrativeScript.Proofs.Observation

/-!
# Counters

A script that only adds spelled integers to one key, or takes them away, counts
exactly. Every statement but the first reads the total that the one before has
stored, and a total of zero or one that is too large is stored and not read
again. So the script counts up to the first such total and stops at the
statement after it. The number it starts from may be zero, if a text spells it.
-/

namespace NarrativeScript.Script

open NarrativeScript.Number

/-- A statement on a counter: it adds the integer that a token spells, or takes it away. The integer
is not zero and can become a binary64 number. -/
structure Change where
  operation : Operation
  token : String
  amount : Int
  isAdditive : operation ≠ .mul
  spells : Value.integerLiteral? token = some amount
  isFilled : amount ≠ 0
  isBounded : amount.natAbs < overflowBound

namespace Change

/-- By how much the change moves a counter. -/
def step (change : Change) : Int :=
  match change.operation, change.isAdditive with
  | .add, _ => change.amount
  | .sub, _ => -change.amount
  | .mul, multiplies => absurd rfl multiplies

theorem onIntegers_amount (change : Change) (number : Int) :
    change.operation.onIntegers number change.amount = number + change.step := by
  obtain ⟨operation, token, amount, isAdditive, spells, isFilled, isBounded⟩ := change
  cases operation with
  | add => rfl
  | sub => exact Int.sub_eq_add_neg
  | mul => exact absurd rfl isAdditive

def statement (key : String) (change : Change) : Statement :=
  (Action.arithmetic change.operation key change.token).statement

end Change

/-- What the changes make of a number, one after the other. -/
def total (start : Int) (changes : List Change) : Int :=
  changes.foldl (fun number change => number + change.step) start

theorem total_cons (start : Int) (change : Change) (rest : List Change) :
    total start (change :: rest) = total (start + change.step) rest :=
  rfl

/-- Changes in any order come to the same, since each moves a number by an amount of its own. -/
theorem total_perm (start : Int) {changes others : List Change} (same : changes.Perm others) :
    total start changes = total start others :=
  same.foldl_eq' (fun _ _ _ _ number => Int.add_right_comm number _ _) start

/-- A stored total that arithmetic reads: it counts as true and can become a binary64 number. -/
def IsReadable (number : Int) : Prop :=
  number ≠ 0 ∧ number.natAbs < overflowBound

instance : DecidablePred IsReadable := fun _ => inferInstanceAs (Decidable (_ ∧ _))

/-- Why arithmetic does not read a stored total. -/
def refusal (key : String) (number : Int) : Failure :=
  if number = 0 then .undefinedValue key else .oversizedInteger

/-- Every total that a later change has to read can be read. -/
def StaysReadable (start : Int) (changes : List Change) : Prop :=
  ∀ count < changes.length, 0 < count → IsReadable (total start (changes.take count))

instance (start : Int) (changes : List Change) : Decidable (StaysReadable start changes) :=
  inferInstanceAs (Decidable (∀ count < changes.length, 0 < count → _))

theorem StaysReadable.tail {start : Int} {change : Change} {rest : List Change}
    (h : StaysReadable start (change :: rest)) : StaysReadable (start + change.step) rest := by
  intro count inside positive
  have later := h (count + 1) (Nat.succ_lt_succ inside) (Nat.succ_pos count)
  rwa [List.take_succ_cons, total_cons] at later

/-- The total after so many changes is the first that a change has to read and cannot. -/
structure IsFirstUnreadable (start : Int) (changes : List Change) (count : Nat) : Prop where
  positive : 0 < count
  followed : count < changes.length
  earlier : StaysReadable start (changes.take count)
  unreadable : ¬ IsReadable (total start (changes.take count))

theorem exists_isFirstUnreadable {start : Int} {changes : List Change}
    (h : ¬ StaysReadable start changes) : ∃ count, IsFirstUnreadable start changes count := by
  have stuck : ∃ count, count < changes.length ∧ 0 < count ∧
      ¬ IsReadable (total start (changes.take count)) := by
    simpa [StaysReadable] using h
  obtain ⟨followed, positive, unreadable⟩ := Nat.find_spec stuck
  refine ⟨Nat.find stuck, positive, followed, fun count inside filled => ?_, unreadable⟩
  rw [List.length_take, Nat.min_eq_left (Nat.le_of_lt followed)] at inside
  rw [List.take_take, Nat.min_eq_left (Nat.le_of_lt inside)]
  by_contra refused
  exact Nat.find_min stuck inside ⟨Nat.lt_trans inside followed, filled, refused⟩

/-- A value that counts as true and reads as an integer is read below the bound and fails above. -/
theorem operandNumber_of_integer {state : State} {token : String} {value : Value} {number : Int}
    (found : operandValue? state token = some value) (reads : value.numeric = .integer number) :
    operandNumber state token =
      if number.natAbs < overflowBound then .ok (.integer number) else .error .oversizedInteger := by
  unfold operandNumber
  rw [found]
  dsimp only
  rw [reads, if_neg (by simp [IsNan, nan])]
  exact if_congr (fitsBinary64_integer_iff number) rfl rfl

theorem Change.operandNumber_token (change : Change) (state : State) :
    operandNumber state change.token = .ok (.integer change.amount) := by
  have found : operandValue? state change.token = some (.integer change.amount) := by
    rw [operandValue?, change.spells]
    simp [Value.isTrue_integer.2 change.isFilled]
  rw [operandNumber_of_integer found rfl, if_pos change.isBounded]

/-- The key is no integer literal, and what it holds counts as true and reads as the number, which
can become a binary64 number. -/
structure StartsAt (state : State) (key : String) (number : Int) : Prop where
  unspelled : Value.integerLiteral? key = none
  held : ∃ value, state.get? key = some value ∧ value.isTrue = true ∧ value.numeric = .integer number
  bounded : number.natAbs < overflowBound

theorem StartsAt.operandNumber {state : State} {key : String} {number : Int}
    (h : StartsAt state key number) : operandNumber state key = .ok (.integer number) := by
  obtain ⟨value, held, counts, reads⟩ := h.held
  have found : operandValue? state key = some value := by
    rw [operandValue?, h.unspelled, held]
    simp [counts]
  rw [operandNumber_of_integer found reads, if_pos h.bounded]

theorem startsAt_set {key : String} (unspelled : Value.integerLiteral? key = none) (state : State)
    {number : Int} (readable : IsReadable number) :
    StartsAt (state.set key (.integer number)) key number :=
  ⟨unspelled, ⟨.integer number, State.get?_set_self _ _ _, Value.isTrue_integer.2 readable.1, rfl⟩,
    readable.2⟩

theorem operandNumber_of_unreadable {key : String} (unspelled : Value.integerLiteral? key = none)
    (state : State) {number : Int} (unreadable : ¬ IsReadable number) :
    operandNumber (state.set key (.integer number)) key = .error (refusal key number) := by
  by_cases zero : number = 0
  · subst zero
    exact operandNumber_set_of_not_isTrue unspelled state rfl
  · have found : operandValue? (state.set key (.integer number)) key = some (.integer number) := by
      rw [operandValue?_set unspelled, Option.filter_some, if_pos (Value.isTrue_integer.2 zero)]
    have large : ¬ number.natAbs < overflowBound := fun small => unreadable ⟨zero, small⟩
    rw [operandNumber_of_integer found rfl, if_neg large, refusal, if_neg zero]

/-! ### Runs -/

section Running

variable {σ : Type} [Dice.Source σ]

/-- A change that can read the counter moves it. -/
theorem Change.dispatch_of_startsAt (context : Context) (change : Change) {key : String}
    {session : Session σ} {number : Int} (counter : StartsAt session.state key number) :
    dispatch context (change.statement key) session =
      .done (session.set key (.integer (number + change.step))) := by
  have computed : calculate session.state change.operation key change.token =
      .ok (.integer (change.operation.onIntegers number change.amount)) :=
    calculate_eq_ok_iff.2 ⟨_, _, counter.operandNumber, change.operandNumber_token session.state, rfl⟩
  rw [Change.statement, dispatch_calculate context computed, change.onIntegers_amount]
  rfl

/-- A change that cannot read the counter fails and leaves it as it is. -/
theorem Change.dispatch_of_unreadable (context : Context) (change : Change) {key : String}
    (unspelled : Value.integerLiteral? key = none) (session : Session σ) {number : Int}
    (unreadable : ¬ IsReadable number) :
    dispatch context (change.statement key) (session.set key (.integer number)) =
      .failed (refusal key number) (session.set key (.integer number)) := by
  have refused : operandNumber (session.set key (.integer number)).state key =
      .error (refusal key number) := operandNumber_of_unreadable unspelled session.state unreadable
  have failed : calculate (session.set key (.integer number)).state change.operation key
      change.token = .error (refusal key number) := by
    unfold calculate
    rw [refused]
  exact dispatch_calculate_error context failed

/-- By induction on the changes: each but the last leaves a total from which the others go on. -/
theorem dispatchAll_changes (context : Context) {key : String} {changes : List Change}
    (filled : changes ≠ []) {session : Session σ} {start : Int}
    (counter : StartsAt session.state key start) (readable : StaysReadable start changes) :
    dispatchAll context (changes.map (Change.statement key)) session =
      .done (session.set key (.integer (total start changes))) := by
  induction changes generalizing session start with
  | nil => exact absurd rfl filled
  | cons change rest ih =>
      rw [List.map_cons, dispatchAll, change.dispatch_of_startsAt context counter,
        Outcome.andThen_done]
      cases rest with
      | nil => simp [dispatchAll, total]
      | cons second rest =>
          have here : IsReadable (start + change.step) := by
            simpa [total] using readable 1 (by simp) Nat.one_pos
          have moved : StartsAt (session.set key (.integer (start + change.step))).state key _ :=
            startsAt_set counter.unspelled session.state here
          rw [ih (List.cons_ne_nil _ _) moved readable.tail, Session.set_set, ← total_cons]

/-- The changes up to the first total that cannot be read are made, and the next one fails. -/
theorem dispatchAll_of_isFirstUnreadable (context : Context) {key : String} {changes : List Change}
    {session : Session σ} {start : Int} (counter : StartsAt session.state key start) {count : Nat}
    (first : IsFirstUnreadable start changes count) :
    let made := changes.take count
    let stopped := session.set key (.integer (total start made))
    dispatchAll context (made.map (Change.statement key)) session = .done stopped ∧
      dispatchAll context (changes.map (Change.statement key)) session =
        .failed (refusal key (total start made)) stopped := by
  intro made stopped
  have filled : made ≠ [] := by
    rw [List.ne_nil_iff_length_pos, List.length_take, Nat.min_eq_left (Nat.le_of_lt first.followed)]
    exact first.positive
  have prior := dispatchAll_changes context filled counter first.earlier
  obtain ⟨next, rest, left⟩ := List.exists_cons_of_ne_nil
    (fun emptied => Nat.not_le_of_lt first.followed (List.drop_eq_nil_iff.1 emptied))
  have cut : changes = made ++ next :: rest := by rw [← left, List.take_append_drop]
  refine ⟨prior, ?_⟩
  conv_lhs => rw [cut]
  rw [List.map_append, dispatchAll_append, prior, Outcome.andThen_done, List.map_cons, dispatchAll,
    next.dispatch_of_unreadable context counter.unspelled session first.unreadable,
    Outcome.andThen_failed]

theorem dispatchAll_failure?_eq_none_iff (context : Context) {key : String} {changes : List Change}
    (filled : changes ≠ []) {session : Session σ} {start : Int}
    (counter : StartsAt session.state key start) :
    (dispatchAll context (changes.map (Change.statement key)) session).failure? = none ↔
      StaysReadable start changes := by
  constructor
  · intro succeeded
    by_contra stuck
    obtain ⟨count, first⟩ := exists_isFirstUnreadable stuck
    rw [(dispatchAll_of_isFirstUnreadable context counter first).2] at succeeded
    cases succeeded
  · intro readable
    rw [dispatchAll_changes context filled counter readable]
    rfl

theorem run_changes (context : Context) {key : String} {changes : List Change}
    {script : Option String} (read : statements script = (changes.map (Change.statement key), none))
    (session : Session σ) :
    run context script session = dispatchAll context (changes.map (Change.statement key)) session := by
  rw [run_eq_dispatchAll, read]
  exact Outcome.andThen_done_right _

/-- A script of changes to one key counts exactly. It succeeds if every total that it has to read
again can be read, and then the key holds the last total and nothing else has changed. If not, it
stops at the statement after the first total that cannot be read, and the key holds that one. The
order of the changes matters only for whether the script succeeds. -/
theorem counter_stops_after_first_unreadable_total (context : Context) {key : String}
    {changes : List Change} (filled : changes ≠ []) {script : Option String}
    (read : statements script = (changes.map (Change.statement key), none)) {session : Session σ}
    {start : Int} (counter : StartsAt session.state key start) :
    ((run context script session).failure? = none ↔ StaysReadable start changes) ∧
    (StaysReadable start changes →
      run context script session = .done (session.set key (.integer (total start changes)))) ∧
    (¬ StaysReadable start changes → ∃ count, IsFirstUnreadable start changes count) ∧
    (∀ count, IsFirstUnreadable start changes count →
      let made := changes.take count
      let stopped := session.set key (.integer (total start made))
      dispatchAll context (made.map (Change.statement key)) session = .done stopped ∧
        run context script session = .failed (refusal key (total start made)) stopped) ∧
    ∀ others other, changes.Perm others →
      statements other = (others.map (Change.statement key), none) →
        (run context script session).failure? = none →
          (run context other session).failure? = none →
            run context other session = run context script session := by
  rw [run_changes context read]
  refine ⟨dispatchAll_failure?_eq_none_iff context filled counter,
    dispatchAll_changes context filled counter, exists_isFirstUnreadable,
    fun count first => dispatchAll_of_isFirstUnreadable context counter first, ?_⟩
  intro others other same reread succeeded finished
  have refilled : others ≠ [] := fun empty => filled (List.Perm.eq_nil (empty ▸ same))
  rw [run_changes context reread] at finished ⊢
  rw [dispatchAll_changes context filled counter
      ((dispatchAll_failure?_eq_none_iff context filled counter).1 succeeded),
    dispatchAll_changes context refilled counter
      ((dispatchAll_failure?_eq_none_iff context refilled counter).1 finished),
    total_perm start same]

end Running

/-- From the text of a zero a counter goes up and down in either order, and the order that passes
zero stops there. A counter just below the bound is moved to it and not read again. -/
theorem count_from_zero_and_count_to_bound :
    let session : Session Dice.Prepared :=
      ⟨.ofList [("hp", some (.text " 0")), ("sum", some (.integer (overflowBound - 1)))], ⟨[]⟩⟩
    let gain : Change := ⟨.add, "007", 7, by decide, by decide +kernel, by decide, by decide +kernel⟩
    let loss : Change := ⟨.sub, "+4", 4, by decide, by decide +kernel, by decide, by decide +kernel⟩
    let extra : Change := ⟨.sub, "-1", -1, by decide, by decide +kernel, by decide, by decide +kernel⟩
    let up := "ADD hp 007; SUB hp +4"
    let down := "SUB hp +4;ADD hp 007"
    let back := "ADD hp 007;SUB hp +4;SUB hp +4;SUB hp -1;ADD hp 007"
    let full := "SUB sum -1;SUB sum +4"
    ([gain, loss] ≠ [] ∧ statements (some up) = ([gain, loss].map (Change.statement "hp"), none) ∧
        StartsAt session.state "hp" 0 ∧
        run ⟨0, 32⟩ (some up) session = .done (session.set "hp" (.integer 3)) ∧
        run ⟨0, 32⟩ (some down) session = run ⟨0, 32⟩ (some up) session) ∧
      (statements (some back) =
          ([gain, loss, loss, extra, gain].map (Change.statement "hp"), none) ∧
        run ⟨0, 32⟩ (some back) session =
          .failed (.undefinedValue "hp") (session.set "hp" (.integer 0))) ∧
      (statements (some full) = ([extra, loss].map (Change.statement "sum"), none) ∧
        StartsAt session.state "sum" (overflowBound - 1) ∧
        run ⟨0, 32⟩ (some full) session =
          .failed .oversizedInteger (session.set "sum" (.integer overflowBound))) := by
  intro session gain loss extra up down back full
  have hp : StartsAt session.state "hp" 0 :=
    ⟨by decide +kernel, ⟨.text " 0", by decide +kernel, by decide +kernel, by decide +kernel⟩,
      by decide +kernel⟩
  have sum : StartsAt session.state "sum" (overflowBound - 1) :=
    ⟨by decide +kernel, ⟨.integer (overflowBound - 1), by decide +kernel, by decide +kernel, rfl⟩,
      by decide +kernel⟩
  have readUp : statements (some up) = ([gain, loss].map (Change.statement "hp"), none) := by
    decide +kernel
  have readDown : statements (some down) = ([loss, gain].map (Change.statement "hp"), none) := by
    decide +kernel
  have readBack : statements (some back) =
      ([gain, loss, loss, extra, gain].map (Change.statement "hp"), none) := by decide +kernel
  have readFull : statements (some full) = ([extra, loss].map (Change.statement "sum"), none) := by
    decide +kernel
  have zero : IsFirstUnreadable 0 [gain, loss, loss, extra, gain] 4 :=
    ⟨by decide, by simp, by decide +kernel, by decide +kernel⟩
  have bound : IsFirstUnreadable (overflowBound - 1) [extra, loss] 1 :=
    ⟨by decide, by simp, by decide +kernel, by decide +kernel⟩
  obtain ⟨-, counts, -, -, reordered⟩ :=
    counter_stops_after_first_unreadable_total ⟨0, 32⟩ (by simp) readUp hp
  obtain ⟨counted, -⟩ :=
    counter_stops_after_first_unreadable_total ⟨0, 32⟩ (by simp) readDown hp
  obtain ⟨-, -, -, stopsAtZero, -⟩ :=
    counter_stops_after_first_unreadable_total ⟨0, 32⟩ (by simp) readBack hp
  obtain ⟨-, -, -, stopsAtBound, -⟩ :=
    counter_stops_after_first_unreadable_total ⟨0, 32⟩ (by simp) readFull sum
  have risen := counts (by decide +kernel)
  have reached : total (overflowBound - 1) [extra] = overflowBound := by decide +kernel
  have refused : refusal "sum" overflowBound = .oversizedInteger := by decide +kernel
  have stopped := (stopsAtBound 1 bound).2
  rw [show [extra, loss].take 1 = [extra] from rfl, reached, refused] at stopped
  refine ⟨⟨by simp, readUp, hp, risen, ?_⟩, ⟨readBack, (stopsAtZero 4 zero).2⟩, readFull, sum,
    stopped⟩
  exact reordered [loss, gain] down (.swap loss gain []) readDown (by rw [risen]; rfl)
    (counted.2 (by decide +kernel))

end NarrativeScript.Script
