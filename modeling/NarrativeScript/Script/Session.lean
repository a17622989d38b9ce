import NarrativeScript.Dice.Source
import NarrativeScript.Failure
import NarrativeScript.State

/-!
# Sessions, outcomes and contexts

A script works on a session: a state and a source of dice. What it leaves is an
outcome: the session as it then stands, and the failure that stopped the
script, if one did. A context tells how deep the branch being run is nested and
how deep it may be.
-/

namespace NarrativeScript.Script

structure Session (σ : Type) where
  state : State
  source : σ

structure Outcome (σ : Type) where
  failure? : Option Failure
  session : Session σ

namespace Outcome

variable {σ : Type}

def done (session : Session σ) : Outcome σ :=
  ⟨none, session⟩

def failed (failure : Failure) (session : Session σ) : Outcome σ :=
  ⟨some failure, session⟩

/-- A step that answers with a failure has left the session as it was. -/
def ofStep (before : Session σ) : Except Failure (Session σ) → Outcome σ
  | .ok after => done after
  | .error failure => failed failure before

/-- Goes on from the session of an outcome unless a failure stops it. -/
def andThen (outcome : Outcome σ) (next : Session σ → Outcome σ) : Outcome σ :=
  match outcome.failure? with
  | none => next outcome.session
  | some _ => outcome

@[simp] theorem andThen_done (session : Session σ) (next : Session σ → Outcome σ) :
    (done session).andThen next = next session := rfl

@[simp] theorem andThen_failed (failure : Failure) (session : Session σ)
    (next : Session σ → Outcome σ) : (failed failure session).andThen next = failed failure session :=
  rfl

theorem andThen_done_right (outcome : Outcome σ) : outcome.andThen done = outcome := by
  obtain ⟨failure, session⟩ := outcome
  cases failure <;> rfl

theorem andThen_assoc (outcome : Outcome σ) (next later : Session σ → Outcome σ) :
    (outcome.andThen next).andThen later = outcome.andThen fun session => (next session).andThen later := by
  obtain ⟨failure, session⟩ := outcome
  cases failure <;> rfl

theorem eq_done {outcome : Outcome σ} (h : outcome.failure? = none) :
    outcome = done outcome.session := by
  obtain ⟨failure, session⟩ := outcome
  cases h
  rfl

theorem eq_done_of {outcome : Outcome σ} {session : Session σ} (succeeded : outcome.failure? = none)
    (state : outcome.session.state = session.state)
    (source : outcome.session.source = session.source) : outcome = done session := by
  obtain ⟨failure, reached, left⟩ := outcome
  cases succeeded
  cases state
  cases source
  rfl

theorem eq_failed {outcome : Outcome σ} {failure : Failure} (h : outcome.failure? = some failure) :
    outcome = failed failure outcome.session := by
  obtain ⟨cause, session⟩ := outcome
  cases h
  rfl

theorem andThen_of_some {outcome : Outcome σ} {failure : Failure}
    (h : outcome.failure? = some failure) (next : Session σ → Outcome σ) :
    outcome.andThen next = outcome := by
  rw [eq_failed h, andThen_failed]

end Outcome

structure Context where
  depth : Int
  limit : Int
  deriving DecidableEq, Repr

namespace Context

/-- How many more branches may be entered, one within the other. -/
def levels (context : Context) : Nat :=
  (context.limit - context.depth).toNat

def inner (context : Context) : Context :=
  { context with depth := context.depth + 1 }

def tooDeep (context : Context) : Failure :=
  .depthExceeded (context.depth + 1) context.limit

def nested (context : Context) : Except Failure Context :=
  if context.limit < context.depth + 1 then .error context.tooDeep else .ok context.inner

theorem nested_eq_ok_iff {context deeper : Context} :
    context.nested = .ok deeper ↔ context.depth < context.limit ∧ deeper = context.inner := by
  unfold nested
  split
  · constructor
    · intro impossible
      cases impossible
    · rintro ⟨shallow, -⟩
      omega
  · rw [Except.ok.injEq]
    constructor
    · rintro rfl
      exact ⟨by omega, rfl⟩
    · rintro ⟨-, rfl⟩
      rfl

theorem nested_eq_error_iff {context : Context} {failure : Failure} :
    context.nested = .error failure ↔
      context.limit ≤ context.depth ∧ failure = context.tooDeep := by
  unfold nested
  split
  · rw [Except.error.injEq]
    constructor
    · rintro rfl
      exact ⟨by omega, rfl⟩
    · rintro ⟨-, rfl⟩
      rfl
  · constructor
    · intro impossible
      cases impossible
    · rintro ⟨deep, -⟩
      omega

theorem levels_eq_zero_iff {context : Context} :
    context.levels = 0 ↔ context.nested = .error context.tooDeep := by
  rw [nested_eq_error_iff, levels]
  constructor
  · intro exhausted
    exact ⟨by omega, rfl⟩
  · rintro ⟨deep, -⟩
    omega

theorem levels_inner {context : Context} {levels : Nat} (h : context.levels = levels + 1) :
    context.inner.levels = levels ∧ context.nested = .ok context.inner := by
  unfold Context.levels at h
  refine ⟨?_, nested_eq_ok_iff.2 ⟨by omega, rfl⟩⟩
  show (context.limit - (context.depth + 1)).toNat = levels
  omega

end Context

end NarrativeScript.Script
