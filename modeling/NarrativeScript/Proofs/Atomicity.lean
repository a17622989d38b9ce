import NarrativeScript.Dice.Prepared
import NarrativeScript.Proofs.Descent

/-!
# A failing statement changes nothing

A statement that fails, however deep the branch in which it does, leaves the
state and the dice as they were. A script that fails therefore leaves exactly
what the statements before the failing one have left.
-/

namespace NarrativeScript.Script

variable {σ : Type} [Dice.Source σ]

/-- A run that fails has a first failing piece, and the outcome is the outcome of that piece. -/
theorem runPieces_stops (enter : String → Session σ → Outcome σ) {texts : List String}
    {session : Session σ} {failure : Failure}
    (h : (runPieces enter texts session).failure? = some failure) :
    ∃ before piece after reached, texts = before ++ piece :: after ∧
      runPieces enter before session = .done reached ∧
      (runPiece enter piece reached).failure? = some failure ∧
      runPieces enter texts session = runPiece enter piece reached := by
  induction texts generalizing session with
  | nil => cases h
  | cons piece rest ih =>
      rw [runPieces] at h ⊢
      cases here : (runPiece enter piece session).failure? with
      | some cause =>
          rw [Outcome.andThen_of_some here] at h ⊢
          exact ⟨[], piece, rest, session, rfl, rfl, h, rfl⟩
      | none =>
          rw [Outcome.eq_done here, Outcome.andThen_done] at h ⊢
          obtain ⟨before, other, after, reached, rfl, succeeded, failed, same⟩ := ih h
          refine ⟨piece :: before, other, after, reached, rfl, ?_, failed, same⟩
          rw [runPieces, Outcome.eq_done here, Outcome.andThen_done, succeeded]

theorem runLine_failed {context : Context} {line : Line} {session : Session σ} {failure : Failure}
    (h : (runLine context line session).failure? = some failure) :
    runLine context line session = .failed failure session := by
  rcases runLine_cases context line session with ⟨cause, failed⟩ | done | ⟨_, _, _, -, -, done⟩
  · rw [failed] at h ⊢
    cases h
    rfl
  · rw [done] at h
    cases h
  · rw [done] at h
    cases h

theorem runPiece_failed {context : Context} {piece : String} (single : ';' ∉ piece.toList)
    {session : Session σ} {failure : Failure}
    (h : (runPiece (enter context) piece session).failure? = some failure) :
    runPiece (enter context) piece session = .failed failure session := by
  rw [runPiece_eq_runLine single] at h ⊢
  exact runLine_failed h

theorem run_failed {context : Context} {text : String} (single : ';' ∉ text.toList)
    {session : Session σ} {failure : Failure}
    (h : (run context (some text) session).failure? = some failure) :
    run context (some text) session = .failed failure session := by
  by_cases empty : text = ""
  · subst empty
    rw [run_empty] at h
    cases h
  · rw [run_single context empty single] at h ⊢
    exact runPiece_failed single h

/-- A statement that fails leaves the session as it was, and every piece of a script is a
statement. So a script that fails leaves what the pieces before its first failing one leave. -/
theorem failed_run_leaves_successful_prefix :
    (∀ (context : Context) (text : String) (session : Session σ) (failure : Failure),
      ';' ∉ text.toList → (run context (some text) session).failure? = some failure →
        (run context (some text) session).session = session) ∧
    (∀ (script : Option String), ∀ piece ∈ pieces script, ';' ∉ piece.toList) ∧
    ∀ (limit : Int) (script : Option String) (session : Session σ) (failure : Failure),
      Depth.InRange limit → (process limit script session).failure? = some failure →
        ∃ before piece after reached, pieces script = before ++ piece :: after ∧
          runPieces (enter ⟨0, limit⟩) before session = .done reached ∧
          runPiece (enter ⟨0, limit⟩) piece reached = .failed failure reached ∧
          (process limit script session).session = reached := by
  refine ⟨?_, fun script piece member => not_mem_of_mem_pieces member, ?_⟩
  · intro context text session failure single h
    rw [run_failed single h]
    rfl
  · intro limit script session failure inRange h
    rw [process, if_pos inRange, run_eq] at h ⊢
    obtain ⟨before, piece, after, reached, cut, succeeded, failed, same⟩ := runPieces_stops _ h
    have single : ';' ∉ piece.toList := not_mem_of_pieces_eq cut
    refine ⟨before, piece, after, reached, cut, succeeded, runPiece_failed single failed, ?_⟩
    rw [same, runPiece_failed single failed]
    rfl

/-- A die of no faces in a branch is not cast; a script that fails at its second statement keeps
what the first one rolled. -/
theorem failing_die_and_failing_sum :
    let session : Session Dice.Prepared := ⟨.empty, ⟨[5]⟩⟩
    let die := "IF a IS a THEN ROLL 0 x"
    let sum := "ROLL 6 a;ADD b 1;SET a 2"
    ';' ∉ die.toList ∧
      (run ⟨0, 32⟩ (some die) session).failure? = some (.format .diceSize (.text "0")) ∧
      (run ⟨0, 32⟩ (some die) session).session = session ∧
      Depth.InRange 32 ∧
      (process 32 (some sum) session).failure? = some (.undefinedValue "b") ∧
      ∃ before piece after reached, pieces (some sum) = before ++ piece :: after ∧
        runPieces (enter ⟨0, 32⟩) before session = .done reached ∧
        runPiece (enter ⟨0, 32⟩) piece reached = .failed (.undefinedValue "b") reached ∧
        (process 32 (some sum) session).session = reached := by
  refine ⟨by decide, rfl, ?_, by decide, rfl, ?_⟩
  · exact failed_run_leaves_successful_prefix.1 ⟨0, 32⟩ "IF a IS a THEN ROLL 0 x" _ _ (by decide) rfl
  · exact failed_run_leaves_successful_prefix.2.2 32 (some "ROLL 6 a;ADD b 1;SET a 2") _ _
      (by decide) rfl

end NarrativeScript.Script
