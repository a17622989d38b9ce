import NarrativeScript.Dice.Prepared
import NarrativeScript.Script.Run

/-!
# Scripts in sequence

Two scripts joined by a semicolon run one after the other. Every semicolon cuts
and a piece is read only when its turn comes, so the pieces of the second script
begin where the first one has ended, and after a failure they are not looked at.
The empty script is apart: alone it has no piece, joined it is an empty piece.
-/

namespace NarrativeScript.Script

open NarrativeScript.Text

variable {σ : Type} [Dice.Source σ]

/-- Whatever is joined to a script runs by its pieces from what the script leaves. -/
theorem run_join (context : Context) {first : String} (filled : first ≠ "") (second : String)
    (session : Session σ) :
    run context (some (first ++ ";" ++ second)) session =
      (run context (some first) session).andThen (runPieces (enter context) (segments second)) := by
  rw [run_eq, run_eq, pieces_join filled, runPieces_append]

theorem runPieces_segments (context : Context) {text : String} (filled : text ≠ "")
    (session : Session σ) :
    runPieces (enter context) (segments text) session = run context (some text) session := by
  rw [run_eq, pieces, if_neg filled]

/-- A script that fails is not the empty one. -/
theorem ne_empty_of_run_failed {context : Context} {text : String} {session reached : Session σ}
    {failure : Failure} (h : run context (some text) session = .failed failure reached) :
    text ≠ "" := by
  rintro rfl
  rw [run_empty] at h
  cases h

/-- Joined scripts run in sequence. The second goes on from what the first has left if that one has
succeeded; if it has failed, the second has no part in the outcome, whatever its text is. -/
theorem joined_scripts_run_in_sequence (context : Context) (first second : String)
    (session : Session σ) :
    (first ≠ "" → second ≠ "" → ∀ reached, run context (some first) session = .done reached →
      run context (some (first ++ ";" ++ second)) session = run context (some second) reached) ∧
    ∀ failure reached, run context (some first) session = .failed failure reached →
      run context (some (first ++ ";" ++ second)) session = .failed failure reached := by
  constructor
  · intro filledFirst filledSecond reached succeeded
    rw [run_join context filledFirst, succeeded, Outcome.andThen_done,
      runPieces_segments context filledSecond]
  · intro failure reached failed
    rw [run_join context (ne_empty_of_run_failed failed), failed, Outcome.andThen_failed]

/-- The first script rolls and the second counts on the roll and ends in an empty piece; another
first script fails after its roll, and the pieces joined to it are no statements. -/
theorem roll_then_sum_and_failure_then_blanks :
    let session : Session Dice.Prepared := ⟨.empty, ⟨[4, 2]⟩⟩
    let context : Context := ⟨0, 32⟩
    let rolls := "SET a 1;ROLL 6 b"
    let sum := "ADD a b;"
    let fails := "ROLL 6 b;ADD c 1;SET a 2"
    rolls ≠ "" ∧ sum ≠ "" ∧
      (∃ reached, run context (some rolls) session = .done reached ∧
        run context (some (rolls ++ ";" ++ sum)) session = run context (some sum) reached) ∧
      ∃ failure reached, run context (some fails) session = .failed failure reached ∧
        run context (some (fails ++ ";" ++ ";; ;")) session = .failed failure reached := by
  intro session context rolls sum fails
  have succeeded : run context (some rolls) session =
      .done (run context (some rolls) session).session := Outcome.eq_done (by decide +kernel)
  have failed : run context (some fails) session =
      .failed (.undefinedValue "c") (run context (some fails) session).session :=
    Outcome.eq_failed (by decide +kernel)
  refine ⟨by decide, by decide, ⟨_, succeeded, ?_⟩, _, _, failed, ?_⟩
  · exact (joined_scripts_run_in_sequence context rolls sum session).1 (by decide) (by decide) _
      succeeded
  · exact (joined_scripts_run_in_sequence context fails ";; ;" session).2 _ _ failed

end NarrativeScript.Script
