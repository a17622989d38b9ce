import NarrativeScript.Dice.Prepared
import NarrativeScript.Proofs.Journal

/-!
# The dice that a run casts

A run casts one die for each roll that it completes, in the order in which it
completes them, and no other. Which rolls those are depends on earlier numbers,
and on nothing else that the source holds: two sources that answer the same dice
alike lead to the same outcome. A source that writes down what it is asked for
shows the dice of the journal.
-/

namespace NarrativeScript.Script

variable {σ τ : Type} [Dice.Source σ] [Dice.Source τ]

/-- The numbers that come up on the dice, and the source that is left. -/
def castAll : List Die → σ → List Nat × σ
  | [], source => ([], source)
  | die :: rest, source =>
      let here := die.cast source
      let later := castAll rest here.2
      (here.1 :: later.1, later.2)

theorem length_castAll (dice : List Die) (source : σ) :
    (castAll dice source).1.length = dice.length := by
  induction dice generalizing source with
  | nil => rfl
  | cons die rest ih => exact congrArg Nat.succ (ih _)

theorem castAll_append (first rest : List Die) (source : σ) :
    castAll (first ++ rest) source =
      ((castAll first source).1 ++ (castAll rest (castAll first source).2).1,
        (castAll rest (castAll first source).2).2) := by
  induction first generalizing source with
  | nil => rfl
  | cons die others ih => rw [List.cons_append, castAll, ih, castAll, List.cons_append]

/-- Two sources that show the same on all of the dice do so on the first ones, and then on those
that follow. -/
theorem castAll_append_alike {first rest : List Die} {source : σ} {other : τ}
    (h : (castAll (first ++ rest) other).1 = (castAll (first ++ rest) source).1) :
    (castAll first other).1 = (castAll first source).1 ∧
      (castAll rest (castAll first other).2).1 = (castAll rest (castAll first source).2).1 := by
  rw [castAll_append, castAll_append] at h
  exact List.append_inj h ((length_castAll first other).trans (length_castAll first source).symm)

/-- A source that also writes down how many sides each die has that it is asked for. -/
structure Recorder (σ : Type) where
  source : σ
  asked : List Nat

instance : Dice.Source (Recorder σ) where
  draw sides positive recorder :=
    let answer := Dice.Source.draw sides positive recorder.source
    (answer.1, ⟨answer.2, recorder.asked ++ [sides]⟩)

theorem castAll_recorder (dice : List Die) (recorder : Recorder σ) :
    castAll dice recorder =
      ((castAll dice recorder.source).1,
        ⟨(castAll dice recorder.source).2, recorder.asked ++ dice.map Subtype.val⟩) := by
  induction dice generalizing recorder with
  | nil => simp [castAll]
  | cons die rest ih =>
      have here : die.cast recorder = ((die.cast recorder.source).1,
          ⟨(die.cast recorder.source).2, recorder.asked ++ [die.val]⟩) := rfl
      rw [castAll, castAll, here, ih, List.map_cons, List.append_assoc, List.singleton_append]

theorem die?_eq_some_iff {token : String} {die : Die} :
    die? token = some die ↔ Value.integerLiteral? token = some (die.val : Int) := by
  unfold die?
  cases spelled : Value.integerLiteral? token with
  | none => simp
  | some size =>
      obtain ⟨sides, positive, bounded⟩ := die
      dsimp only
      split
      · rename_i within
        simp only [Option.some.injEq, Subtype.mk.injEq]
        omega
      · rename_i beyond
        constructor
        · intro impossible
          cases impossible
        · intro same
          cases same
          exact absurd ⟨positive, bounded⟩ beyond

/-- The die that an action casts; only a roll has one. -/
def Action.die? : Action → Option Die
  | .roll size _ => Script.die? size
  | _ => none

/-- From another source an action writes the same value, if its die shows the same there, and takes
its die from that source. -/
theorem Action.written_of_alike {action : Action} {source : σ} {other : τ} (state : State)
    (alike : (castAll action.die?.toList other).1 = (castAll action.die?.toList source).1) :
    action.written state other =
      (action.written state source).map fun change =>
        (change.1, (castAll action.die?.toList other).2) := by
  cases action with
  | roll size key =>
      cases found : Script.die? size with
      | none =>
          simp only [written, found]
          rfl
      | some die =>
          have cast : (roll size key).die? = some die := found
          rw [cast] at alike ⊢
          have same : (die.cast other).1 = (die.cast source).1 := List.head_eq_of_cons_eq alike
          simp only [written, found]
          rw [same]
          rfl
  | _ => exact written_of_ne_roll Instruction.noConfusion state source other

theorem Action.source_of_written {action : Action} {state : State} {source rest : σ} {value : Value}
    (h : action.written state source = .ok (value, rest)) :
    rest = (castAll action.die?.toList source).2 := by
  have same : action.written state source = (action.written state source).map fun change =>
      (change.1, (castAll action.die?.toList source).2) := written_of_alike state rfl
  rw [h] at same
  exact (Prod.ext_iff.1 (Except.ok.inj same)).2

/-- A roll that is written is that of a die, and shows the number that came up on it. -/
theorem Action.written_roll {size key : String} {state : State} {source rest : σ} {value : Value}
    (h : (roll size key).written state source = .ok (value, rest)) :
    ∃ die, Script.die? size = some die ∧ value = .integer (die.cast source).1 ∧
      rest = (die.cast source).2 := by
  unfold written at h
  dsimp only at h
  split at h
  · cases h
  · rename_i die found
    cases h
    exact ⟨die, found, rfl, rfl⟩

/-- A roll fails only where there is no die to cast. -/
theorem Action.die?_of_failed {action : Action} {state : State} {source : σ} {failure : Failure}
    (h : action.written state source = .error failure) : action.die? = none := by
  cases action with
  | roll size key =>
      unfold written at h
      dsimp only at h
      split at h
      · rename_i found
        exact found
      · cases h
  | _ => rfl

theorem runPiece_failed_of_source {context : Context} {piece : String}
    (single : ';' ∉ piece.toList) {session : Session σ} {failure : Failure}
    (h : runPiece (enter context) piece session = .failed failure session) (other : τ) :
    runPiece (enter context) piece ⟨session.state, other⟩ =
      .failed failure ⟨session.state, other⟩ := by
  rw [runPiece_eq_runLine single, runLine_eq_settle] at h ⊢
  dsimp only
  cases target : descend context session.state (.ofPiece piece) with
  | error cause =>
      rw [target] at h
      cases h
      rfl
  | ok found =>
      rw [target] at h
      cases found with
      | none => cases h
      | some action =>
          have refused : action.written session.state session.source = .error failure :=
            settle_failure?_eq_some_iff.1 (congrArg Outcome.failure? h)
          have quiet := Action.die?_of_failed refused
          have alike : (castAll action.die?.toList other).1 =
              (castAll action.die?.toList session.source).1 := by
            rw [quiet]
            rfl
          have same : action.written session.state other = .error failure := by
            rw [Action.written_of_alike session.state alike, refused]
            rfl
          dsimp only
          rw [same]
          rfl

theorem runPiece_of_idle {context : Context} {piece : String} (single : ';' ∉ piece.toList)
    {state : State} (target : descend context state (.ofPiece piece) = .ok none) (source : σ) :
    runPiece (enter context) piece ⟨state, source⟩ = .done ⟨state, source⟩ := by
  rw [runPiece_eq_runLine single, runLine_eq_settle]
  dsimp only
  rw [target]

theorem Does.of_alike {context : Context} {piece : String} {session next : Session σ} {deed : Deed}
    (h : Does context piece session deed next) {other : τ}
    (alike : (castAll deed.action.die?.toList other).1 =
      (castAll deed.action.die?.toList session.source).1) :
    Does context piece ⟨session.state, other⟩ deed
      ⟨next.state, (castAll deed.action.die?.toList other).2⟩ := by
  have written : deed.action.written session.state other =
      .ok (deed.value, (castAll deed.action.die?.toList other).2) := by
    rw [Action.written_of_alike session.state alike, h.written]
    rfl
  refine ⟨⟨h.carried.single, h.carried.target, ?_⟩, written, h.stored⟩
  rw [runPiece_eq_runLine h.carried.single, runLine_eq_settle]
  dsimp only
  rw [h.carried.target]
  dsimp only
  rw [written, h.stored]
  rfl

theorem Does.source {context : Context} {piece : String} {session next : Session σ} {deed : Deed}
    (h : Does context piece session deed next) :
    next.source = (castAll deed.action.die?.toList session.source).2 :=
  Action.source_of_written h.written

/-! ### The dice of a run -/

/-- The dice of the rolls among the deeds, in order. -/
def diceOf (deeds : List Deed) : List Die :=
  deeds.flatMap fun deed => deed.action.die?.toList

theorem diceOf_cons (deed : Deed) (deeds : List Deed) :
    diceOf (deed :: deeds) = deed.action.die?.toList ++ diceOf deeds :=
  List.flatMap_cons

/-- The value that a roll has stored. -/
def Deed.rolled? : Deed → Option Value
  | ⟨.roll _ _, value⟩ => some value
  | _ => none

/-- A run takes from the source the dice of its journal. -/
theorem source_runPieces (context : Context) {texts : List String}
    (single : ∀ piece ∈ texts, ';' ∉ piece.toList) (session : Session σ) :
    (runPieces (enter context) texts session).session.source =
      (castAll (diceOf (journal context texts session)) session.source).2 := by
  refine journal_induction (motive := fun _ session deeds outcome =>
    outcome.session.source = (castAll (diceOf deeds) session.source).2) ?_ ?_ ?_ ?_ single session
  · intro session
    rfl
  · intro piece rest session failure _ _
    rfl
  · intro piece rest session deeds outcome _ _ _ ih
    exact ih
  · intro piece rest session deed next deeds outcome does ih
    rw [ih, diceOf_cons, castAll_append, does.source]

/-- What the rolls of a journal store are the numbers that come up on its dice. -/
theorem rolled_journal (context : Context) {texts : List String}
    (single : ∀ piece ∈ texts, ';' ∉ piece.toList) (session : Session σ) :
    (journal context texts session).filterMap Deed.rolled? =
      (castAll (diceOf (journal context texts session)) session.source).1.map
        fun number : Nat => Value.integer number := by
  refine journal_induction (motive := fun _ session deeds _ => deeds.filterMap Deed.rolled? =
    (castAll (diceOf deeds) session.source).1.map fun number : Nat => Value.integer number)
    ?_ ?_ ?_ ?_ single session
  · intro session
    rfl
  · intro piece rest session failure _ _
    rfl
  · intro piece rest session deeds outcome _ _ _ ih
    exact ih
  · intro piece rest session deed next deeds outcome does ih
    rw [diceOf_cons, castAll_append, ← does.source, List.map_append, ← ih]
    obtain ⟨action, value⟩ := deed
    cases action with
    | roll size key =>
        obtain ⟨die, found, shown, -⟩ := Action.written_roll does.written
        have cast : (Action.roll size key).die? = some die := found
        rw [cast]
        cases shown
        rfl
    | _ => rfl

/-- From a source that shows the same on these dice the run has the same journal and comes to the
same end. -/
theorem runPieces_of_alike (context : Context) {texts : List String}
    (single : ∀ piece ∈ texts, ';' ∉ piece.toList) (session : Session σ) {other : τ}
    (alike : (castAll (diceOf (journal context texts session)) other).1 =
      (castAll (diceOf (journal context texts session)) session.source).1) :
    journal context texts ⟨session.state, other⟩ = journal context texts session ∧
      (runPieces (enter context) texts ⟨session.state, other⟩).failure? =
        (runPieces (enter context) texts session).failure? ∧
      (runPieces (enter context) texts ⟨session.state, other⟩).session.state =
        (runPieces (enter context) texts session).session.state := by
  revert other
  refine journal_induction (motive := fun texts session deeds outcome => ∀ {other : τ},
    (castAll (diceOf deeds) other).1 = (castAll (diceOf deeds) session.source).1 →
      journal context texts ⟨session.state, other⟩ = deeds ∧
        (runPieces (enter context) texts ⟨session.state, other⟩).failure? = outcome.failure? ∧
        (runPieces (enter context) texts ⟨session.state, other⟩).session.state =
          outcome.session.state) ?_ ?_ ?_ ?_ single session
  · intro session other _
    exact ⟨rfl, rfl, rfl⟩
  · intro piece rest session failure here failed other _
    rw [journal, runPieces, runPiece_failed_of_source here failed other]
    exact ⟨rfl, rfl, rfl⟩
  · intro piece rest session deeds outcome here target _ ih other alike
    have silent : deed? context piece (Session.mk session.state other) = none := deed?_of_idle target
    rw [journal, runPieces, runPiece_of_idle here target other, silent]
    exact ih alike
  · intro piece rest session deed next deeds outcome does ih other alike
    rw [diceOf_cons] at alike
    obtain ⟨first, later⟩ := castAll_append_alike alike
    have moved := does.of_alike first
    rw [← does.source] at later
    obtain ⟨same, failure, state⟩ := ih later
    rw [journal, runPieces, moved.carried.success, moved.deed?]
    exact ⟨congrArg (deed :: ·) same, failure, state⟩

/-- From one session to the other a die has been cast, with as many sides as the token spells, and
the number on it has been stored at the key. -/
def CastsOne (size key : String) (before after : Session σ) : Prop :=
  ∃ sides number : Nat, ∃ positive : 0 < sides, Value.integerLiteral? size = some (sides : Int) ∧
    sides ≤ largestDie ∧ Dice.roll sides positive before.source = (number, after.source) ∧
    1 ≤ number ∧ number ≤ sides ∧ after.state = before.state.set key (.integer number)

theorem CarriesOut.castsOne {context : Context} {piece size key : String} {before after : Session σ}
    (h : CarriesOut context piece before (.roll size key) after) : CastsOne size key before after := by
  obtain ⟨value, does⟩ := h.does
  obtain ⟨die, found, rfl, left⟩ := Action.written_roll does.written
  obtain ⟨sides, positive, bounded⟩ := die
  exact ⟨sides, _, positive, die?_eq_some_iff.1 found, bounded, Prod.ext rfl left.symm,
    Dice.roll_pos sides positive before.source, Dice.roll_le sides positive before.source,
    does.stored⟩

/-- A statement that completes no roll takes nothing from the source, whether it fails or not. -/
theorem source_of_no_roll {context : Context} {piece : String} (single : ';' ∉ piece.toList)
    {session : Session σ}
    (rollless : ∀ size key next, ¬ CarriesOut context piece session (.roll size key) next) :
    (runPiece (enter context) piece session).session.source = session.source := by
  rcases runPiece_cases context single session with
    ⟨failure, failed⟩ | ⟨-, unchanged⟩ | ⟨⟨action, value⟩, next, does⟩
  · rw [failed]
    rfl
  · rw [unchanged]
    rfl
  · rw [does.carried.success]
    cases action with
    | roll size key => exact absurd does.carried (rollless size key next)
    | _ => exact does.source

/-- The source is used for the dice of the run's journal, one after the other, and for nothing
else. -/
structure TakesItsDice (context : Context) (script : Option String) (session : Session σ)
    (dice : List Die) : Prop where
  left : (run context script session).session.source = (castAll dice session.source).2
  stored : (journal context (pieces script) session).filterMap Deed.rolled? =
    (castAll dice session.source).1.map fun number : Nat => Value.integer number
  asked : (run context script ⟨session.state, Recorder.mk session.source []⟩).session.source.asked =
    dice.map Subtype.val
  decisive : ∀ {τ : Type} [Dice.Source τ] (other : τ),
    (castAll dice other).1 = (castAll dice session.source).1 →
      run context script ⟨session.state, other⟩ =
        ⟨(run context script session).failure?,
          ⟨(run context script session).session.state, (castAll dice other).2⟩⟩

theorem run_of_alike (context : Context) (script : Option String) (session : Session σ) (other : τ)
    (alike : (castAll (diceOf (journal context (pieces script) session)) other).1 =
      (castAll (diceOf (journal context (pieces script) session)) session.source).1) :
    run context script ⟨session.state, other⟩ =
      ⟨(run context script session).failure?, ⟨(run context script session).session.state,
        (castAll (diceOf (journal context (pieces script) session)) other).2⟩⟩ := by
  have single : ∀ piece ∈ pieces script, ';' ∉ piece.toList := fun piece => not_mem_of_mem_pieces
  obtain ⟨same, failure, state⟩ := runPieces_of_alike context single session alike
  have left := source_runPieces context single (Session.mk session.state other)
  rw [same] at left
  rw [run_eq, run_eq, ← failure, ← state, ← left]

/-- A statement that completes a roll casts one die and stores the number on it, and no other takes
anything from the source. So a script takes from the source the dice of the rolls that it
completes, in that order, and all that it does is settled by the numbers on them. -/
theorem dice_are_cast_for_completed_rolls (context : Context) :
    (∀ (piece : String) (session : Session σ), ';' ∉ piece.toList →
      (∀ size key next, CarriesOut context piece session (.roll size key) next →
        CastsOne size key session next) ∧
      ((∀ size key next, ¬ CarriesOut context piece session (.roll size key) next) →
        (runPiece (enter context) piece session).session.source = session.source)) ∧
    ∀ (script : Option String) (session : Session σ),
      TakesItsDice context script session
        (diceOf (journal context (pieces script) session)) := by
  refine ⟨fun piece session single =>
    ⟨fun size key next => CarriesOut.castsOne, source_of_no_roll single⟩, fun script session => ?_⟩
  have single : ∀ piece ∈ pieces script, ';' ∉ piece.toList := fun piece => not_mem_of_mem_pieces
  constructor
  case left =>
    rw [run_eq]
    exact source_runPieces context single session
  case stored => exact rolled_journal context single session
  case asked =>
    have recorded := run_of_alike context script session (Recorder.mk session.source [])
      (by rw [castAll_recorder])
    rw [recorded, castAll_recorder]
    rfl
  case decisive =>
    intro τ _ other
    exact run_of_alike context script session other

/-- The first roll chooses the second one, and the third has no die. Two lists of numbers that show
the same on two dice are told apart only by what is left of them. -/
theorem roll_chooses_roll :
    let script := some "ROLL 6 a;IF a IS 5 THEN ROLL 20 b ELSE ROLL 3 c;ROLL 0 d"
    let session : Session Dice.Prepared := ⟨.empty, ⟨[4, 2]⟩⟩
    let other : Dice.Prepared := ⟨[10, 22, 7]⟩
    let dice := diceOf (journal ⟨0, 32⟩ (pieces script) session)
    ';' ∉ "ROLL 6 a".toList ∧ ';' ∉ "ROLL 0 d".toList ∧
      (∃ next, CarriesOut ⟨0, 32⟩ "ROLL 6 a" session (.roll "6" "a") next ∧
        CastsOne "6" "a" session next) ∧
      ((∀ size key next, ¬ CarriesOut ⟨0, 32⟩ "ROLL 0 d" session (.roll size key) next) ∧
        (runPiece (enter ⟨0, 32⟩) "ROLL 0 d" session).session.source = session.source) ∧
      (castAll dice other).1 = (castAll dice session.source).1 ∧
      run ⟨0, 32⟩ script ⟨.empty, other⟩ =
        ⟨(run ⟨0, 32⟩ script session).failure?,
          ⟨(run ⟨0, 32⟩ script session).session.state, ⟨[7]⟩⟩⟩ := by
  intro script session other dice
  have turn : (Line.ofPiece "ROLL 6 a").turn session.state = .simple .roll ["6", "a"] := by
    decide +kernel
  have carried : CarriesOut ⟨0, 32⟩ "ROLL 6 a" session (.roll "6" "a") _ :=
    carriesOut_of_descend (by decide) (descend_of_turn_simple turn) (by decide +kernel)
  have rollless : ∀ size key next,
      ¬ CarriesOut ⟨0, 32⟩ "ROLL 0 d" session (.roll size key) next := by
    intro size key next impossible
    have failed : (runPiece (enter ⟨0, 32⟩) "ROLL 0 d" session).failure? =
        some (.format .diceSize (.text "0")) := by decide +kernel
    rw [impossible.success] at failed
    cases failed
  have shown : castAll dice other = ([5, 3], ⟨[7]⟩) := by decide +kernel
  have alike : (castAll dice other).1 = (castAll dice session.source).1 := by decide +kernel
  obtain ⟨statements, scripts⟩ := @dice_are_cast_for_completed_rolls Dice.Prepared _ ⟨0, 32⟩
  refine ⟨by decide, by decide, ⟨_, carried, ?_⟩, ⟨rollless, ?_⟩, alike, ?_⟩
  · exact (statements "ROLL 6 a" session (by decide)).1 _ _ _ carried
  · exact (statements "ROLL 0 d" session (by decide)).2 rollless
  · exact ((scripts script session).decisive other alike).trans (by rw [shown])

end NarrativeScript.Script
