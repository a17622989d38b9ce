import NarrativeScript.Proofs.Malformed
import NarrativeScript.Proofs.Overflow

/-!
# Failures that lie in the script

Everything that a statement is checked for before it acts is a matter of the
script: how it is spelled and how deep it is nested. Of the actions only
arithmetic can fail for another reason, an operand that is too large. A run fails
for that reason exactly when it comes to such an action.
-/

namespace NarrativeScript.Script

theorem Context.isAuthored_of_nested {context : Context} {failure : Failure}
    (h : context.nested = .error failure) : failure.IsAuthored := by
  rw [(Context.nested_eq_error_iff.1 h).2]
  rfl

/-- On its way to an action a line fails only for what the script says. -/
theorem isAuthored_of_descend {context : Context} {state : State} {line : Line} {failure : Failure}
    (h : descend context state line = .error failure) : failure.IsAuthored := by
  rcases descend_error h with ⟨deeper, -, failed⟩ | ⟨inner, refused⟩
  · exact (Line.isMalformed_of_turn failed).isAuthored
  · exact Context.isAuthored_of_nested refused

namespace Action

/-- The action is arithmetic, and an operand of it is found too large. -/
def Overflows (action : Action) (state : State) : Prop :=
  match action with
  | .arithmetic _ left right => Overflowing state left right
  | _ => False

theorem accept_error {α : Type} {params : List String} {value : Option Value}
    {change : Value → α} {failure : Failure}
    (h : (accept params value).map change = .error failure) :
    failure = .format .falseValue (.words params) := by
  unfold accept at h
  split at h
  · cases h
  · cases h
    rfl

theorem isMalformed_of_accept {α : Type} {params : List String} {value : Option Value}
    {change : Value → α} {failure : Failure}
    (h : (accept params value).map change = .error failure) : failure.IsMalformed := by
  rw [accept_error h]
  exact Failure.isMalformed_format _ _

variable {σ : Type} [Dice.Source σ]

/-- An action fails for what the script says, or for an operand without a use, or for one that is
too large. -/
theorem written_failure (action : Action) (state : State) (source : σ) :
    (action.Overflows state ∧ action.written state source = .error .oversizedInteger) ∨
      (¬ action.Overflows state ∧ ∀ failure, action.written state source = .error failure →
        failure.IsMalformed ∨ ∃ token, failure = .undefinedValue token) := by
  cases action with
  | goto destination => exact .inr ⟨id, fun _ failed => .inl (isMalformed_of_accept failed)⟩
  | set key content => exact .inr ⟨id, fun _ failed => .inl (isMalformed_of_accept failed)⟩
  | copy origin key => exact .inr ⟨id, fun _ failed => .inl (isMalformed_of_accept failed)⟩
  | roll size key =>
      refine .inr ⟨id, fun failure failed => .inl ?_⟩
      unfold written at failed
      dsimp only at failed
      split at failed
      · cases failed
        exact Failure.isMalformed_format _ _
      · cases failed
  | arithmetic operation left right =>
      unfold written Overflows
      rcases calculate_cases state operation left right with
        ⟨bounded, result, computed⟩ | ⟨large, failed⟩ | ⟨bounded, token, failed⟩
      · refine .inr ⟨bounded, fun failure failed => ?_⟩
        simp only [computed] at failed
        cases failed
      · exact .inl ⟨large, by simp only [failed]; rfl⟩
      · refine .inr ⟨bounded, fun failure failing => .inr ⟨token, ?_⟩⟩
        simp only [failed] at failing
        cases failing
        rfl

theorem isAuthored_of_written {action : Action} {state : State} {source : σ} {failure : Failure}
    (bounded : ¬ action.Overflows state) (h : action.written state source = .error failure) :
    failure.IsAuthored := by
  rcases action.written_failure state source with ⟨large, -⟩ | ⟨-, causes⟩
  · exact absurd large bounded
  · rcases causes failure h with malformed | ⟨token, rfl⟩
    · exact malformed.isAuthored
    · rfl

end Action

variable {σ : Type} [Dice.Source σ]

/-- Without a failure so far, the run comes to a statement that amounts to the action. -/
def Reaches (context : Context) (script : Option String) (session : Session σ) (action : Action)
    (reached : Session σ) : Prop :=
  ∃ before piece after, pieces script = before ++ piece :: after ∧
    runPieces (enter context) before session = .done reached ∧
    descend context reached.state (.ofPiece piece) = .ok (some action)

/-- The run comes to arithmetic on an operand that is too large. -/
def Overflows (context : Context) (script : Option String) (session : Session σ) : Prop :=
  ∃ action reached, Reaches context script session action reached ∧ action.Overflows reached.state

theorem runLine_overflow {context : Context} {line : Line} {session : Session σ} {action : Action}
    (reached : descend context session.state line = .ok (some action))
    (large : action.Overflows session.state) :
    runLine context line session = .failed .oversizedInteger session := by
  rw [runLine_eq_settle, reached]
  rcases action.written_failure session.state session.source with ⟨-, failed⟩ | ⟨bounded, -⟩
  · dsimp only
    rw [failed]
    rfl
  · exact absurd large bounded

theorem isAuthored_of_runLine {context : Context} {line : Line} {session : Session σ}
    (bounded : ∀ action, descend context session.state line = .ok (some action) →
      ¬ action.Overflows session.state) {failure : Failure}
    (h : (runLine context line session).failure? = some failure) : failure.IsAuthored := by
  rcases runLine_failure h with failed | ⟨action, target, failed⟩
  · exact isAuthored_of_descend failed
  · exact Action.isAuthored_of_written (bounded action target) failed

theorem run_overflow {context : Context} {script : Option String} {session : Session σ}
    (large : Overflows context script session) :
    (run context script session).failure? = some .oversizedInteger := by
  obtain ⟨action, reached, ⟨before, piece, after, cut, succeeded, target⟩, large⟩ := large
  have failed : runPiece (enter context) piece reached = .failed .oversizedInteger reached := by
    rw [runPiece_eq_runLine (not_mem_of_pieces_eq cut)]
    exact runLine_overflow target large
  rw [run_eq, cut, runPieces_append, succeeded, Outcome.andThen_done, runPieces, failed]
  rfl

theorem isAuthored_of_run {context : Context} {script : Option String} {session : Session σ}
    (bounded : ¬ Overflows context script session) {failure : Failure}
    (h : (run context script session).failure? = some failure) : failure.IsAuthored := by
  rw [run_eq] at h
  obtain ⟨before, piece, after, reached, cut, succeeded, failed, -⟩ := runPieces_stops _ h
  rw [runPiece_eq_runLine (not_mem_of_pieces_eq cut)] at failed
  refine isAuthored_of_runLine (fun action target large => ?_) failed
  exact bounded ⟨action, reached, ⟨before, piece, after, cut, succeeded, target⟩, large⟩

end NarrativeScript.Script
