import NarrativeScript.Proofs.Footprint
import NarrativeScript.Proofs.Sequence

/-!
# Independent statements

Two statements that succeed from the same state may be run in either order when
neither changes an entry that the other may read or write, and only one of them
may roll. Each then does after the other what it does alone: it sees the same at
its own tokens, and the dice of the other were never its own. A write that
changes nothing is no obstacle, even at a key of both.
-/

namespace NarrativeScript.Script

open NarrativeScript.Text

variable {σ : Type}

def Outcome.withSource (source : σ) (outcome : Outcome σ) : Outcome σ :=
  ⟨outcome.failure?, ⟨outcome.session.state, source⟩⟩

/-- A line succeeds if it is in step with one that does. -/
theorem InStep.eq_done {first second : State} {session : Session σ} {outcome : Outcome σ}
    (h : InStep first second (.done session) outcome) :
    outcome = .done ⟨outcome.session.state, session.source⟩ := by
  rw [Outcome.eq_done h.failure.symm]
  exact congrArg (fun source => Outcome.done ⟨outcome.session.state, source⟩) h.source.symm

variable [Dice.Source σ]

/-- A line that spells no roll does the same whatever the source, and leaves the source alone. -/
theorem runLine_of_quiet {context : Context} {line : Line}
    (quiet : Instruction.roll.word ∉ line.tokens) (state : State) (source other : σ) :
    runLine context line ⟨state, other⟩ =
      (runLine context line ⟨state, source⟩).withSource other := by
  rw [runLine_eq_settle, runLine_eq_settle]
  cases target : descend context state line with
  | error failure => rfl
  | ok found =>
      cases found with
      | none => rfl
      | some action =>
          have still : action.instruction ≠ .roll := by
            intro rolls
            exact quiet (rolls ▸ (mem_of_descend target).1)
          dsimp only
          rw [Action.written_of_ne_roll still state source other]
          cases action.written state source <;> rfl

/-- No entry that a line changes on the way from one state to another is one that the tokens of the
other line may read or write. -/
def Apart (before after : State) (tokens : List String) : Prop :=
  ∀ key, after.slot? key ≠ before.slot? key → ¬ Footprint tokens key

theorem Apart.agreeOn {before after : State} {tokens : List String} (h : Apart before after tokens) :
    State.AgreeOn tokens before after := by
  intro key member
  have kept : after.slot? key = before.slot? key := by
    by_contra changed
    exact h key changed (.inl member)
  unfold State.visible? State.get?
  rw [kept]

theorem Parallel.slot?_of_ne {first second left right : State} (h : Parallel first second left right)
    {key : String} (changed : left.slot? key ≠ first.slot? key) : right.slot? key = left.slot? key := by
  rcases h key with ⟨kept, -⟩ | ⟨value, here, there⟩
  · exact absurd kept changed
  · rw [here, there]

theorem Parallel.slot?_of_eq {first second left right : State} (h : Parallel first second left right)
    {key : String} (kept : left.slot? key = first.slot? key)
    (same : first.slot? key = second.slot? key) : right.slot? key = second.slot? key := by
  rcases h key with ⟨-, kept⟩ | ⟨value, here, there⟩
  · exact kept
  · rw [there, ← here, kept, same]

/-- The lines are looked at key by key: an entry that one of them changes is out of reach for the
other, and one that neither changes is the same throughout. -/
theorem runLine_comm {context : Context} {first second : Line} {session left right : Session σ}
    (firstDone : runLine context first session = .done left)
    (secondDone : runLine context second session = .done right)
    (apartFirst : Apart session.state left.state second.tokens)
    (apartSecond : Apart session.state right.state first.tokens)
    (quiet : Instruction.roll.word ∉ second.tokens) :
    ∃ one other : State, runLine context second left = .done ⟨one, left.source⟩ ∧
      runLine context first right = .done ⟨other, left.source⟩ ∧
      ∀ key, one.slot? key = other.slot? key := by
  have alone : runLine context second ⟨session.state, left.source⟩ =
      .done ⟨right.state, left.source⟩ := by
    rw [runLine_of_quiet quiet session.state session.source left.source]
    show (runLine context second session).withSource left.source = _
    rw [secondDone]
    rfl
  have unspent : right.source = session.source := by
    have same : runLine context second session =
        (runLine context second session).withSource session.source :=
      runLine_of_quiet quiet session.state session.source session.source
    rw [secondDone] at same
    exact congrArg (fun outcome => outcome.session.source) same
  have secondAfter := runLine_inStep context apartFirst.agreeOn left.source
  rw [alone] at secondAfter
  have firstAfter := runLine_inStep context apartSecond.agreeOn session.source
  rw [firstDone, ← unspent] at firstAfter
  refine ⟨_, _, secondAfter.eq_done, firstAfter.eq_done, fun key => ?_⟩
  by_cases firstKeeps : left.state.slot? key = session.state.slot? key
  · by_cases secondKeeps : right.state.slot? key = session.state.slot? key
    · rw [secondAfter.entries.slot?_of_eq secondKeeps firstKeeps.symm,
        firstAfter.entries.slot?_of_eq firstKeeps secondKeeps.symm, firstKeeps, secondKeeps]
    · have frame : (runLine context first right).session.state.slot? key = right.state.slot? key :=
        runLine_slot? (apartSecond key secondKeeps)
      exact (secondAfter.entries.slot?_of_ne secondKeeps).trans frame.symm
  · have frame : (runLine context second left).session.state.slot? key = left.state.slot? key :=
      runLine_slot? (apartFirst key firstKeeps)
    exact frame.trans (firstAfter.entries.slot?_of_ne firstKeeps).symm

/-- A statement runs as its line, and joined to another it is followed by that one's line. -/
theorem run_join_lines (context : Context) {first second : String} (filledFirst : first ≠ "")
    (filledSecond : second ≠ "") (singleFirst : ';' ∉ first.toList)
    (singleSecond : ';' ∉ second.toList) (session : Session σ) :
    run context (some (first ++ ";" ++ second)) session =
      (runLine context (.ofPiece first) session).andThen (runLine context (.ofPiece second)) := by
  rw [run_join context filledFirst, run_single context filledFirst singleFirst,
    runPiece_eq_runLine singleFirst]
  congr 1
  funext reached
  rw [runPieces_segments context filledSecond, run_single context filledSecond singleSecond,
    runPiece_eq_runLine singleSecond]

theorem run_single_line (context : Context) {text : String} (filled : text ≠ "")
    (single : ';' ∉ text.toList) (session : Session σ) :
    run context (some text) session = runLine context (.ofPiece text) session := by
  rw [run_single context filled single, runPiece_eq_runLine single]

/-- Statements that keep apart commute: in either order both succeed, the same dice are cast and
the same state is left. -/
theorem independent_statements_commute {context : Context} {first second : String}
    (filledFirst : first ≠ "") (filledSecond : second ≠ "") (singleFirst : ';' ∉ first.toList)
    (singleSecond : ';' ∉ second.toList) {session left right : Session σ}
    (firstDone : run context (some first) session = .done left)
    (secondDone : run context (some second) session = .done right)
    (apartFirst : Apart session.state left.state (words second))
    (apartSecond : Apart session.state right.state (words first))
    (dice : "ROLL" ∉ words first ∨ "ROLL" ∉ words second) :
    ∃ one other : Session σ, run context (some (first ++ ";" ++ second)) session = .done one ∧
      run context (some (second ++ ";" ++ first)) session = .done other ∧
      one.source = other.source ∧ ∀ key, one.state.slot? key = other.state.slot? key := by
  rw [run_single_line context filledFirst singleFirst] at firstDone
  rw [run_single_line context filledSecond singleSecond] at secondDone
  rw [run_join_lines context filledFirst filledSecond singleFirst singleSecond,
    run_join_lines context filledSecond filledFirst singleSecond singleFirst, firstDone, secondDone,
    Outcome.andThen_done, Outcome.andThen_done]
  rcases dice with quiet | quiet
  · obtain ⟨one, other, here, there, same⟩ :=
      runLine_comm secondDone firstDone apartSecond apartFirst quiet
    exact ⟨_, _, there, here, rfl, fun key => (same key).symm⟩
  · obtain ⟨one, other, here, there, same⟩ :=
      runLine_comm firstDone secondDone apartFirst apartSecond quiet
    exact ⟨_, _, here, there, rfl, same⟩

/-- One statement writes the value that is there already, at the key by which the other chooses to
roll. -/
theorem unchanged_mode_commutes_with_roll :
    let session : Session Dice.Prepared :=
      ⟨.ofList [("mode", some (.text "easy")), ("gold", some (.integer 5))], ⟨[4, 1]⟩⟩
    let rolled : Session Dice.Prepared := ⟨session.state.set "luck" (.integer 5), ⟨[1]⟩⟩
    let context : Context := ⟨0, 32⟩
    let first := "SET mode easy"
    let second := "IF mode IS easy THEN ROLL 6 luck ELSE GOTO inn"
    first ≠ "" ∧ second ≠ "" ∧ ';' ∉ first.toList ∧ ';' ∉ second.toList ∧
      run context (some first) session = .done session ∧
      run context (some second) session = .done rolled ∧
      Apart session.state session.state (words second) ∧
      Apart session.state rolled.state (words first) ∧ "ROLL" ∉ words first ∧
      ∃ one other, run context (some (first ++ ";" ++ second)) session = .done one ∧
        run context (some (second ++ ";" ++ first)) session = .done other ∧
        one.source = other.source ∧ ∀ key, one.state.slot? key = other.state.slot? key := by
  intro session rolled context first second
  have firstDone : run context (some first) session = .done session :=
    Outcome.eq_done_of (by decide +kernel) (by decide +kernel) (by decide +kernel)
  have secondDone : run context (some second) session = .done rolled :=
    Outcome.eq_done_of (by decide +kernel) (by decide +kernel) (by decide +kernel)
  have apartFirst : Apart session.state session.state (words second) := by
    intro key changed
    exact absurd rfl changed
  have outside : ¬ Footprint (words first) "luck" := by
    unfold Footprint
    decide +kernel
  have apartSecond : Apart session.state rolled.state (words first) := by
    intro key changed
    rw [State.slot?_set] at changed
    split at changed
    · rename_i here
      exact here ▸ outside
    · exact absurd rfl changed
  have quiet : "ROLL" ∉ words first := by decide +kernel
  exact ⟨by decide, by decide, by decide, by decide, firstDone, secondDone, apartFirst, apartSecond,
    quiet, independent_statements_commute (by decide) (by decide) (by decide) (by decide) firstDone
      secondDone apartFirst apartSecond (.inl quiet)⟩

end NarrativeScript.Script
