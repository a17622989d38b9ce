import NarrativeScript.Proofs.Footprint
import NarrativeScript.Proofs.Journal

/-!
# Where values come from

No value in a state that a run comes to is made up. It was in the state at the
start, perhaps under another key, or it is a token of the script, or it is a
number that the run has rolled or computed. So a run never makes a boolean or an
undefined entry, and a value that counts as false appears at a key only where
arithmetic has written it.
-/

namespace NarrativeScript.Script

open NarrativeScript.Text

/-- The deed left a number that arithmetic gave. -/
def Deed.IsArithmetic (deed : Deed) : Prop :=
  ∃ operation left right number, deed = ⟨.arithmetic operation left right, .number number⟩

/-- What a value can be that is found after some deeds. -/
inductive Origin (tokens : List String) (initial : State) (deeds : List Deed) : Value → Prop where
  | held {key : String} {value : Value} (there : initial.get? key = some value) :
      Origin tokens initial deeds value
  | spelled {token : String} (member : token ∈ tokens) : Origin tokens initial deeds (.text token)
  | rolled {size key : String} {number : Number}
      (member : ⟨.roll size key, .number number⟩ ∈ deeds) :
      Origin tokens initial deeds (.number number)
  | computed {operation : Number.Operation} {left right : String} {number : Number}
      (member : ⟨.arithmetic operation left right, .number number⟩ ∈ deeds) :
      Origin tokens initial deeds (.number number)

namespace Origin

variable {tokens : List String} {initial : State} {deeds : List Deed}

theorem mono {more : List String} (h : ∀ token ∈ tokens, token ∈ more) {value : Value}
    (origin : Origin tokens initial deeds value) : Origin more initial deeds value := by
  cases origin with
  | held there => exact .held there
  | spelled member => exact .spelled (h _ member)
  | rolled member => exact .rolled member
  | computed member => exact .computed member

/-- After a deed whose value has an origin, what is found in the state has one before it. -/
theorem cons {first : Deed} (here : Origin tokens initial (first :: deeds) first.value)
    {value : Value}
    (later : Origin tokens (initial.set first.action.key first.value) deeds value) :
    Origin tokens initial (first :: deeds) value := by
  cases later with
  | @held key _ there =>
      rw [State.get?_set] at there
      split at there
      · cases there
        exact here
      · exact .held there
  | spelled member => exact .spelled member
  | rolled member => exact .rolled (List.mem_cons_of_mem first member)
  | computed member => exact .computed (List.mem_cons_of_mem first member)

/-- Booleans are not made by a script: its tokens are texts and its results numbers. -/
theorem boolean {flag : Bool} (h : Origin tokens initial deeds (.boolean flag)) :
    ∃ key, initial.get? key = some (.boolean flag) := by
  cases h with
  | held there => exact ⟨_, there⟩

end Origin

variable {σ : Type} [Dice.Source σ]

/-- What a statement writes is a parameter of it or a value of the state, or else it is counted
among the deeds. -/
theorem Does.origin {context : Context} {piece : String} {session next : Session σ} {deed : Deed}
    (h : Does context piece session deed next) (deeds : List Deed) :
    Origin (words piece) session.state (deed :: deeds) deed.value := by
  obtain ⟨action, value⟩ := deed
  have params := (mem_of_descend h.carried.target).2
  rcases Action.written_cases h.written with ⟨content, member, same, -, -⟩ | ⟨origin, -, held, -, -⟩ |
    ⟨size, key, die, rolls, -, same, -⟩ | ⟨operation, left, right, result, computes, -, same, -⟩
  · cases same
    exact .spelled (params content member)
  · exact .held held
  · cases rolls
    cases same
    exact .rolled List.mem_cons_self
  · cases computes
    cases same
    exact .computed List.mem_cons_self

/-- By induction on the run: each deed adds one value, whose origin its statement tells. -/
theorem origin_of_mem_journal {context : Context} {texts : List String}
    (single : ∀ piece ∈ texts, ';' ∉ piece.toList) (session : Session σ) :
    ∀ deed ∈ journal context texts session,
      Origin (texts.flatMap words) session.state (journal context texts session) deed.value := by
  refine journal_induction (motive := fun texts session deeds _ => ∀ deed ∈ deeds,
    Origin (texts.flatMap words) session.state deeds deed.value) ?_ ?_ ?_ ?_ single session
  · intro session deed impossible
    cases impossible
  · intro piece rest session failure _ _ deed impossible
    cases impossible
  · intro piece rest session deeds outcome _ _ _ ih deed member
    exact (ih deed member).mono fun token => List.mem_append_right (words piece)
  · intro piece rest session first next deeds outcome does ih deed member
    have here : Origin ((piece :: rest).flatMap words) session.state (first :: deeds) first.value :=
      (does.origin deeds).mono fun token => List.mem_append_left (rest.flatMap words)
    rcases List.mem_cons.1 member with rfl | later
    · exact here
    · refine here.cons ?_
      rw [← does.stored]
      exact (ih deed later).mono fun token => List.mem_append_right (words piece)

/-- Only arithmetic leaves a value that counts as false. -/
theorem arithmetic_of_mem_journal {context : Context} {texts : List String}
    (single : ∀ piece ∈ texts, ';' ∉ piece.toList) {session : Session σ} {deed : Deed}
    (member : deed ∈ journal context texts session) (empty : deed.value.isTrue = false) :
    deed.IsArithmetic := by
  obtain ⟨before, piece, after, reached, next, -, -, does⟩ := exists_of_mem_journal single member
  obtain ⟨action, value⟩ := deed
  rcases Action.isTrue_of_written does.written with counts | ⟨operation, left, right, computes⟩
  · rw [counts] at empty
    cases empty
  · cases computes
    obtain ⟨number, -, same, -⟩ := Action.written_arithmetic does.written
    cases same
    exact ⟨operation, left, right, number, rfl⟩

/-- Nothing in the state is made up, if these are the deeds that have led to it from the initial
one. -/
structure NothingInvented (tokens : List String) (initial : State) (deeds : List Deed)
    (reached : State) : Prop where
  origin : ∀ key value, reached.get? key = some value → Origin tokens initial deeds value
  undefinedEntry : ∀ key, reached.slot? key = some none → initial.slot? key = some none
  boolean : ∀ key flag, reached.get? key = some (.boolean flag) →
    ∃ other, initial.get? other = some (.boolean flag)
  falseBoolean : ∀ key, reached.get? key = some (.boolean false) →
    initial.get? key = some (.boolean false)
  emptyText : ∀ key, reached.get? key = some (.text "") → initial.get? key = some (.text "")
  falseValue : ∀ key value, reached.get? key = some value → value.isTrue = false →
    initial.get? key ≠ some value →
      ∃ deed ∈ deeds, deed.IsArithmetic ∧ deed.action.key = key ∧ deed.value = value

theorem NothingInvented.mono {tokens more : List String} {initial reached : State}
    {deeds : List Deed} (h : NothingInvented tokens initial deeds reached)
    (sub : ∀ token ∈ tokens, token ∈ more) : NothingInvented more initial deeds reached :=
  { h with origin := fun key value held => (h.origin key value held).mono sub }

/-- A value is at its key from the start, or a deed has left it there. -/
theorem get?_replay {initial : State} {deeds : List Deed} {key : String} {value : Value}
    (held : (replay initial deeds).get? key = some value) :
    initial.get? key = some value ∨ ∃ deed ∈ deeds, deed.action.key = key ∧ deed.value = value := by
  unfold State.get? at held ⊢
  rcases slot?_replay initial deeds key with kept | ⟨deed, member, same, written⟩
  · rw [kept] at held
    exact .inl held
  · rw [written] at held
    exact .inr ⟨deed, member, same, Option.some.inj held⟩

theorem runPieces_nothingInvented (context : Context) {texts : List String}
    (single : ∀ piece ∈ texts, ';' ∉ piece.toList) (session : Session σ) :
    NothingInvented (texts.flatMap words) session.state (journal context texts session)
      (runPieces (enter context) texts session).session.state := by
  rw [state_runPieces context single]
  have origin : ∀ key value,
      (replay session.state (journal context texts session)).get? key = some value →
        Origin (texts.flatMap words) session.state (journal context texts session) value := by
    intro key value held
    rcases get?_replay held with there | ⟨deed, member, -, rfl⟩
    · exact .held there
    · exact origin_of_mem_journal single session deed member
  have falseValue : ∀ key value,
      (replay session.state (journal context texts session)).get? key = some value →
        value.isTrue = false → session.state.get? key = some value ∨
          ∃ deed ∈ journal context texts session,
            deed.IsArithmetic ∧ deed.action.key = key ∧ deed.value = value := by
    intro key value held empty
    rcases get?_replay held with there | ⟨deed, member, same, rfl⟩
    · exact .inl there
    · exact .inr ⟨deed, member, arithmetic_of_mem_journal single member empty, same, rfl⟩
  constructor
  case origin => exact origin
  case undefinedEntry =>
    intro key held
    rcases slot?_replay session.state (journal context texts session) key with
      kept | ⟨deed, -, -, written⟩
    · exact kept.symm.trans held
    · cases written.symm.trans held
  case boolean =>
    intro key flag held
    exact (origin key _ held).boolean
  case falseBoolean =>
    intro key held
    rcases falseValue key _ held rfl with there | ⟨_, -, ⟨_, _, _, _, rfl⟩, -, impossible⟩
    · exact there
    · cases impossible
  case emptyText =>
    intro key held
    rcases falseValue key _ held rfl with there | ⟨_, -, ⟨_, _, _, _, rfl⟩, -, impossible⟩
    · exact there
    · cases impossible
  case falseValue =>
    intro key value held empty fresh
    exact (falseValue key value held empty).resolve_left fresh

/-- In every state that a run comes to, and in the one that it leaves, failing or not, each value is
from the initial state, or a token of the script, or a number that was rolled or computed on the
way. No undefined entry is made, and of the values that count as false only those that arithmetic
writes. -/
theorem values_are_never_invented (context : Context) (script : Option String)
    (session : Session σ) :
    NothingInvented (scriptTokens script) session.state (journal context (pieces script) session)
        (run context script session).session.state ∧
      ∀ count, NothingInvented (scriptTokens script) session.state
        (journal context ((pieces script).take count) session)
        (runPieces (enter context) ((pieces script).take count) session).session.state := by
  constructor
  · rw [run_eq]
    exact runPieces_nothingInvented context (fun piece => not_mem_of_mem_pieces) session
  · intro count
    have inside : ∀ piece ∈ (pieces script).take count, piece ∈ pieces script :=
      fun piece => List.mem_of_mem_take
    have kept := runPieces_nothingInvented context
      (fun piece member => not_mem_of_mem_pieces (inside piece member)) session
    refine kept.mono fun token spelled => ?_
    obtain ⟨piece, member, word⟩ := List.mem_flatMap.1 spelled
    exact List.mem_flatMap.2 ⟨piece, inside piece member, word⟩

end NarrativeScript.Script
