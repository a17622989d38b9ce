import NarrativeScript.Proofs.Observation

/-!
# The journal of a run

A statement that succeeds carries out one action or none. The journal of a run
lists, in order and up to the first failure, the actions that its statements
carry out, each with the value that it has left at its key. A run is its
journal: written one after the other over the state at the start, the values
give the state that the run leaves.
-/

namespace NarrativeScript.Script

/-- An action that was carried out, and the value that it left at its key. -/
structure Deed where
  action : Action
  value : Value
  deriving DecidableEq, Repr

variable {σ : Type} [Dice.Source σ]

/-- The deed of a statement. One that fails, or that comes to no action, has none. -/
def deed? (context : Context) (piece : String) (session : Session σ) : Option Deed :=
  let outcome := runPiece (enter context) piece session
  match descend context session.state (.ofPiece piece), outcome.failure? with
  | .ok (some action), none => (outcome.session.state.get? action.key).map (Deed.mk action)
  | _, _ => none

/-- The deeds of the pieces in the order in which they are run. A piece that fails is the last. -/
def journal (context : Context) : List String → Session σ → List Deed
  | [], _ => []
  | piece :: rest, session =>
      let outcome := runPiece (enter context) piece session
      match outcome.failure? with
      | none => (deed? context piece session).toList ++ journal context rest outcome.session
      | some _ => []

/-- The statement succeeds by writing the value of the deed at the key of its action. -/
structure Does (context : Context) (piece : String) (session : Session σ) (deed : Deed)
    (next : Session σ) : Prop where
  carried : CarriesOut context piece session deed.action next
  written : deed.action.written session.state session.source = .ok (deed.value, next.source)
  stored : next.state = session.state.set deed.action.key deed.value

theorem CarriesOut.does {context : Context} {piece : String} {session next : Session σ}
    {action : Action} (h : CarriesOut context piece session action next) :
    ∃ value, Does context piece session ⟨action, value⟩ next := by
  obtain ⟨value, written, stored⟩ := h.written
  exact ⟨value, h, written, stored⟩

theorem Does.held {context : Context} {piece : String} {session next : Session σ} {deed : Deed}
    (h : Does context piece session deed next) :
    next.state.get? deed.action.key = some deed.value := by
  rw [h.stored, State.get?_set_self]

theorem Does.deed? {context : Context} {piece : String} {session next : Session σ} {deed : Deed}
    (h : Does context piece session deed next) : deed? context piece session = some deed := by
  unfold Script.deed?
  rw [h.carried.success, h.carried.target]
  show (next.state.get? deed.action.key).map (Deed.mk deed.action) = some deed
  rw [h.held]
  rfl

theorem deed?_of_idle {context : Context} {piece : String} {session : Session σ}
    (target : descend context session.state (.ofPiece piece) = .ok none) :
    deed? context piece session = none := by
  unfold deed?
  rw [target]

/-- A statement fails, or comes to no action, or has a deed. -/
theorem runPiece_cases (context : Context) {piece : String} (single : ';' ∉ piece.toList)
    (session : Session σ) :
    (∃ failure, runPiece (enter context) piece session = .failed failure session) ∨
      (descend context session.state (.ofPiece piece) = .ok none ∧
        runPiece (enter context) piece session = .done session) ∨
      ∃ deed next, Does context piece session deed next := by
  cases outcome : (runPiece (enter context) piece session).failure? with
  | some failure => exact .inl ⟨failure, runPiece_failed single outcome⟩
  | none =>
      have success := Outcome.eq_done outcome
      rcases carriesOut_or_unchanged single success with ⟨action, carried⟩ | ⟨target, unchanged⟩
      · obtain ⟨value, done⟩ := carried.does
        exact .inr (.inr ⟨_, _, done⟩)
      · exact .inr (.inl ⟨target, success.trans (congrArg Outcome.done unchanged)⟩)

/-- A property of a run and its journal is shown by what the next piece may do: there is none, or it
fails, or it comes to no action, or it has a deed. -/
theorem journal_induction {context : Context}
    {motive : List String → Session σ → List Deed → Outcome σ → Prop}
    (ended : ∀ session, motive [] session [] (.done session))
    (stopped : ∀ piece rest session failure, ';' ∉ piece.toList →
      runPiece (enter context) piece session = .failed failure session →
        motive (piece :: rest) session [] (.failed failure session))
    (idle : ∀ piece rest session deeds outcome, ';' ∉ piece.toList →
      descend context session.state (.ofPiece piece) = .ok none →
        runPiece (enter context) piece session = .done session →
          motive rest session deeds outcome → motive (piece :: rest) session deeds outcome)
    (done : ∀ piece rest session deed next deeds outcome, Does context piece session deed next →
      motive rest next deeds outcome → motive (piece :: rest) session (deed :: deeds) outcome)
    {texts : List String} (single : ∀ piece ∈ texts, ';' ∉ piece.toList) (session : Session σ) :
    motive texts session (journal context texts session)
      (runPieces (enter context) texts session) := by
  induction texts generalizing session with
  | nil => exact ended session
  | cons piece rest ih =>
      have here := single piece List.mem_cons_self
      have later := ih fun other member => single other (List.mem_cons_of_mem piece member)
      rw [journal, runPieces]
      rcases runPiece_cases context here session with
        ⟨failure, failed⟩ | ⟨target, unchanged⟩ | ⟨deed, next, does⟩
      · rw [failed]
        exact stopped piece rest session failure here failed
      · rw [unchanged, deed?_of_idle target]
        exact idle piece rest session _ _ here target unchanged (later session)
      · rw [does.carried.success, does.deed?]
        exact done piece rest session deed next _ _ does (later next)

/-- A deed of a run is that of a statement which the run comes to without a failure. -/
theorem exists_of_mem_journal {context : Context} {texts : List String}
    (single : ∀ piece ∈ texts, ';' ∉ piece.toList) {session : Session σ} {deed : Deed}
    (member : deed ∈ journal context texts session) :
    ∃ before piece after reached next, texts = before ++ piece :: after ∧
      runPieces (enter context) before session = .done reached ∧
      Does context piece reached deed next := by
  refine journal_induction (motive := fun texts session deeds _ => deed ∈ deeds →
    ∃ before piece after reached next, texts = before ++ piece :: after ∧
      runPieces (enter context) before session = .done reached ∧
      Does context piece reached deed next) ?_ ?_ ?_ ?_ single session member
  · intro session impossible
    cases impossible
  · intro piece rest session failure _ _ impossible
    cases impossible
  · intro piece rest session deeds outcome _ _ unchanged ih later
    obtain ⟨before, other, after, reached, next, rfl, succeeded, does⟩ := ih later
    refine ⟨piece :: before, other, after, reached, next, rfl, ?_, does⟩
    rw [runPieces, unchanged, Outcome.andThen_done, succeeded]
  · intro piece rest session first middle deeds outcome here ih found
    rcases List.mem_cons.1 found with rfl | later
    · exact ⟨[], piece, rest, session, middle, rfl, rfl, here⟩
    · obtain ⟨before, other, after, reached, next, rfl, succeeded, does⟩ := ih later
      refine ⟨piece :: before, other, after, reached, next, rfl, ?_, does⟩
      rw [runPieces, here.carried.success, Outcome.andThen_done, succeeded]

/-- The state that is left when the values of deeds are written one after the other. -/
def replay (state : State) (deeds : List Deed) : State :=
  deeds.foldl (fun state deed => state.set deed.action.key deed.value) state

/-- An entry is as it was, or it holds what the last deed at its key has left. -/
theorem slot?_replay (state : State) (deeds : List Deed) (key : String) :
    (replay state deeds).slot? key = state.slot? key ∨
      ∃ deed ∈ deeds, deed.action.key = key ∧
        (replay state deeds).slot? key = some (some deed.value) := by
  induction deeds generalizing state with
  | nil => exact .inl rfl
  | cons first rest ih =>
      have next : replay state (first :: rest) =
          replay (state.set first.action.key first.value) rest := rfl
      rw [next]
      rcases ih (state.set first.action.key first.value) with kept | ⟨deed, member, same, held⟩
      · rw [kept, State.slot?_set]
        by_cases here : key = first.action.key
        · exact .inr ⟨first, List.mem_cons_self, here.symm, if_pos here⟩
        · exact .inl (if_neg here)
      · exact .inr ⟨deed, List.mem_cons_of_mem first member, same, held⟩

theorem state_runPieces (context : Context) {texts : List String}
    (single : ∀ piece ∈ texts, ';' ∉ piece.toList) (session : Session σ) :
    (runPieces (enter context) texts session).session.state =
      replay session.state (journal context texts session) := by
  refine journal_induction (motive := fun _ session deeds outcome =>
    outcome.session.state = replay session.state deeds) ?_ ?_ ?_ ?_ single session
  · intro session
    rfl
  · intro piece rest session failure _ _
    rfl
  · intro piece rest session deeds outcome _ _ _ ih
    exact ih
  · intro piece rest session deed next deeds outcome does ih
    rw [ih, does.stored]
    rfl

end NarrativeScript.Script
