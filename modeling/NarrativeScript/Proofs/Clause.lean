import Mathlib.Data.List.Basic
import Mathlib.Data.List.TakeWhile
import NarrativeScript.Proofs.Dispatch
import NarrativeScript.Proofs.Layout

/-!
# Running one conditional

A conditional whose condition holds neither of its two marks, and whose first
branch holds no ELSE, is cut where it was put together: the branches that come
out are the ones that went in. What it does is then told by its condition. A
branch that is entered may lead to further levels; how many there are decides
whether the limit is met, and the first level beyond it is the one refused.
-/

namespace NarrativeScript.Script

open NarrativeScript.Text

/-- Tokens among which there is neither THEN nor ELSE. -/
def IsUnmarked (tokens : List String) : Prop :=
  ∀ token ∈ tokens, IsToken token ∧ token ≠ thenToken ∧ token ≠ elseToken

/-- Tokens among which there is no ELSE. -/
def IsElseFree (tokens : List String) : Prop :=
  ∀ token ∈ tokens, IsToken token ∧ token ≠ elseToken

instance : DecidablePred IsUnmarked :=
  fun tokens => List.decidableBAll _ tokens

instance : DecidablePred IsElseFree :=
  fun tokens => List.decidableBAll _ tokens

/-- A condition and the branch that is run where it holds. -/
structure Clause where
  condition : List String
  body : List String
  deriving DecidableEq, Repr

namespace Clause

/-- The ELSE of a conditional and the branch behind it, if there is one. -/
def elsePart : Option (List String) → List String
  | none => []
  | some tokens => elseToken :: tokens

/-- The tokens behind IF. -/
def params (clause : Clause) (otherwise : Option (List String)) : List String :=
  clause.condition ++ thenToken :: clause.body ++ elsePart otherwise

/-- The conditional with the clause and, if there is one, the branch for where it does not hold. -/
def tokens (clause : Clause) (otherwise : Option (List String)) : List String :=
  Instruction.conditional.word :: clause.params otherwise

/-- No token of the clause is taken for a mark that it is not. The branch may hold conditionals of
its own, as long as they have no ELSE. -/
structure IsPlain (clause : Clause) : Prop where
  condition : IsUnmarked clause.condition
  body : IsElseFree clause.body

instance : DecidablePred IsPlain := fun clause =>
  decidable_of_iff (IsUnmarked clause.condition ∧ IsElseFree clause.body)
    ⟨fun h => ⟨h.1, h.2⟩, fun h => ⟨h.condition, h.body⟩⟩

end Clause

theorem beforeFirst_eq_self {mark : String} {tokens : List String} (absent : mark ∉ tokens) :
    beforeFirst mark tokens = tokens := by
  rw [beforeFirst, List.takeWhile_eq_self_iff]
  intro token member
  simpa using fun same : token = mark => absent (same ▸ member)

theorem beforeFirst_append {mark : String} {before : List String} (absent : mark ∉ before)
    (after : List String) : beforeFirst mark (before ++ mark :: after) = before := by
  rw [beforeFirst, List.takeWhile_append_of_pos]
  · simp
  · intro token member
    simpa using fun same : token = mark => absent (same ▸ member)

theorem afterFirst_append {mark : String} {before : List String} (absent : mark ∉ before)
    (after : List String) : afterFirst mark (before ++ mark :: after) = after := by
  rw [afterFirst, List.dropWhile_append_of_pos]
  · simp
  · intro token member
    simpa using fun same : token = mark => absent (same ▸ member)

namespace Clause

variable {clause : Clause}

theorem IsPlain.thenToken_not_mem (plain : clause.IsPlain) : thenToken ∉ clause.condition :=
  fun member => (plain.condition _ member).2.1 rfl

theorem IsPlain.elseToken_not_mem_condition (plain : clause.IsPlain) :
    elseToken ∉ clause.condition :=
  fun member => (plain.condition _ member).2.2 rfl

/-- The first ELSE is the one behind the branch. -/
theorem IsPlain.elseToken_not_mem (plain : clause.IsPlain) :
    elseToken ∉ clause.condition ++ thenToken :: clause.body := by
  rw [List.mem_append, List.mem_cons]
  rintro (here | mark | there)
  · exact plain.elseToken_not_mem_condition here
  · exact absurd mark (by decide)
  · exact (plain.body _ there).2 rfl

theorem IsPlain.ofParams (plain : clause.IsPlain) (otherwise : Option (List String)) :
    Branches.ofParams (clause.params otherwise) = ⟨clause.condition, clause.body, otherwise⟩ := by
  have condition : beforeFirst thenToken (clause.params otherwise) = clause.condition := by
    rw [params, List.append_assoc, List.cons_append]
    exact beforeFirst_append plain.thenToken_not_mem _
  have body : afterFirst thenToken (clause.condition ++ thenToken :: clause.body) = clause.body :=
    afterFirst_append plain.thenToken_not_mem _
  rw [Branches.ofParams, condition]
  cases otherwise with
  | none =>
      rw [params, elsePart, List.append_nil, beforeFirst_eq_self plain.elseToken_not_mem, body,
        if_neg plain.elseToken_not_mem]
  | some tokens =>
      rw [params, elsePart, beforeFirst_append plain.elseToken_not_mem, body,
        afterFirst_append plain.elseToken_not_mem, if_pos (by simp)]

theorem IsPlain.check (plain : clause.IsPlain) (otherwise : Option (List String)) :
    Instruction.conditional.check (clause.params otherwise) = .ok () := by
  rw [Instruction.check_conditional_eq_ok_iff]
  refine ⟨by simp [params], fun _ => ?_⟩
  rw [params, List.append_assoc, List.idxOf_append_of_notMem plain.thenToken_not_mem,
    List.idxOf_append_of_notMem plain.elseToken_not_mem_condition, List.cons_append,
    List.idxOf_cons_self]
  exact Nat.add_le_add_left (Nat.zero_le _) _

theorem params_ne_nil (clause : Clause) (otherwise : Option (List String)) :
    clause.params otherwise ≠ [] := by
  simp [params]

theorem IsPlain.isToken_of_mem (plain : clause.IsPlain) {otherwise : Option (List String)}
    (later : ∀ tokens ∈ otherwise, ∀ token ∈ tokens, IsToken token) :
    ∀ token ∈ clause.tokens otherwise, IsToken token := by
  intro token member
  rw [tokens, params, List.mem_cons, List.mem_append, List.mem_append, List.mem_cons] at member
  rcases member with rfl | (condition | rfl | body) | behind
  · decide
  · exact (plain.condition token condition).1
  · decide
  · exact (plain.body token body).1
  · cases otherwise with
    | none => cases behind
    | some tokens =>
        rcases List.mem_cons.1 behind with rfl | inside
        · decide
        · exact later tokens rfl token inside

end Clause

variable {σ : Type}

/-- The context so many levels deeper. -/
def Context.below (context : Context) (levels : Nat) : Context :=
  { context with depth := context.depth + levels }

/-- Does something so many levels deeper. Where the limit is met on the way, the first level beyond
it is refused and nothing is done. -/
def atLevel (context : Context) (levels : Nat) (session : Session σ)
    (next : Context → Outcome σ) : Outcome σ :=
  if context.depth + levels ≤ context.limit then next (context.below levels)
  else .failed (.depthExceeded (context.limit + 1) context.limit) session

theorem atLevel_zero {context : Context} (within : context.depth ≤ context.limit)
    (session : Session σ) (next : Context → Outcome σ) :
    atLevel context 0 session next = next context := by
  rw [atLevel, if_pos (by simpa using within), Context.below]
  simp

theorem atLevel_of_le {context : Context} {levels : Nat}
    (room : context.depth + levels ≤ context.limit) (session : Session σ)
    (next : Context → Outcome σ) :
    atLevel context levels session next = next (context.below levels) :=
  if_pos room

theorem atLevel_congr {context : Context} {levels : Nat} {session : Session σ}
    {next other : Context → Outcome σ}
    (same : context.depth + levels ≤ context.limit →
      next (context.below levels) = other (context.below levels)) :
    atLevel context levels session next = atLevel context levels session other := by
  unfold atLevel
  split
  · rename_i room
    exact same room
  · rfl

theorem atLevel_atLevel (context : Context) (first second : Nat) (session : Session σ)
    (next : Context → Outcome σ) :
    (atLevel context first session fun inner => atLevel inner second session next) =
      atLevel context (first + second) session next := by
  have below : (context.below first).below second = context.below (first + second) := by
    simp [Context.below, Int.add_assoc]
  have depth : (context.below first).depth = context.depth + first := rfl
  have limit : (context.below first).limit = context.limit := rfl
  unfold atLevel
  dsimp only
  rw [below, depth, limit, Int.natCast_add, Int.add_assoc]
  split
  · rfl
  · rw [if_neg (by omega)]

/-! ### What a conditional does -/

theorem Line.turn_conditional (state : State) {line : Line} {params : List String}
    (tokens : line.tokens = Instruction.conditional.word :: params) (filled : params ≠ [])
    (checked : Instruction.conditional.check params = .ok ()) :
    line.turn state = conditionalTurn state params := by
  obtain ⟨first, rest, rfl⟩ := List.exists_cons_of_ne_nil filled
  rw [Line.turn, tokens]
  dsimp only
  rw [Instruction.ofType_word]
  dsimp only
  rw [checked]
  exact if_pos rfl

variable [Dice.Source σ]

/-- What a conditional comes to: its condition fails, or chooses a branch, or chooses none. -/
def Clause.outcome (clause : Clause) (otherwise : Option (List String)) (context : Context)
    (session : Session σ) : Outcome σ :=
  match Condition.evaluate session.state (unwords clause.condition) with
  | .error failure => .failed failure session
  | .ok true => enter context (unwords clause.body) session
  | .ok false =>
      match otherwise with
      | none => .done session
      | some tokens => enter context (unwords tokens) session

/-- However a conditional is laid out, it is cut where it was put together. -/
theorem run_clause (context : Context) {clause : Clause} (plain : clause.IsPlain)
    {otherwise : Option (List String)}
    (later : ∀ tokens ∈ otherwise, ∀ token ∈ tokens, IsToken token) {text : String}
    (read : words text = clause.tokens otherwise) (session : Session σ) :
    run context (some text) session = clause.outcome otherwise context session := by
  have tokens : ∀ token ∈ words text, IsToken token := by
    rw [read]
    exact plain.isToken_of_mem later
  have single : ';' ∉ text.toList :=
    (laysOut_words text).not_mem fun token member => (tokens token member).2
  have filled : text ≠ "" := by
    rintro rfl
    cases read
  have solid : ∀ token ∈ clause.condition, IsWord token :=
    fun token member => (plain.condition token member).1.isWord
  rw [run_single context filled single, runPiece_eq,
    Line.turn_conditional _ read (clause.params_ne_nil otherwise) (plain.check otherwise),
    conditionalTurn, plain.ofParams]
  unfold Clause.outcome
  rw [evaluate_unwords session.state solid]
  dsimp only
  cases Condition.evaluateTokens session.state clause.condition with
  | error failure => rfl
  | ok result =>
      cases result with
      | true => rfl
      | false => cases otherwise <;> rfl

/-- Entering a branch leads one level deeper. At the limit that is the level beyond it. -/
theorem enter_eq_atLevel {context : Context} (within : context.depth ≤ context.limit)
    (branch : String) (session : Session σ) :
    enter context branch session =
      atLevel context 1 session fun inner => run inner (some branch) session := by
  rcases Int.lt_or_eq_of_le within with shallow | deepest
  · have nested : context.nested = .ok context.inner := Context.nested_eq_ok_iff.2 ⟨shallow, rfl⟩
    rw [enter, nested, atLevel_of_le (by omega)]
    rfl
  · have refused : context.nested = .error context.tooDeep :=
      Context.nested_eq_error_iff.2 ⟨by omega, rfl⟩
    rw [enter, refused, atLevel, if_neg (by omega), Context.tooDeep, deepest]

namespace Clause

variable (clause : Clause) {context : Context} {session : Session σ}

theorem outcome_of_error {otherwise : Option (List String)} {failure : Failure}
    (failed : Condition.evaluate session.state (unwords clause.condition) = .error failure) :
    clause.outcome otherwise context session = .failed failure session := by
  unfold outcome
  rw [failed]

theorem outcome_of_true {otherwise : Option (List String)}
    (holds : Condition.evaluate session.state (unwords clause.condition) = .ok true)
    (within : context.depth ≤ context.limit) :
    clause.outcome otherwise context session =
      atLevel context 1 session fun inner => run inner (some (unwords clause.body)) session := by
  unfold outcome
  rw [holds]
  exact enter_eq_atLevel within _ session

theorem outcome_of_false
    (missed : Condition.evaluate session.state (unwords clause.condition) = .ok false)
    (within : context.depth ≤ context.limit) (branch : List String) :
    clause.outcome (some branch) context session =
      atLevel context 1 session fun inner => run inner (some (unwords branch)) session := by
  unfold outcome
  rw [missed]
  exact enter_eq_atLevel within _ session

theorem outcome_of_false_none
    (missed : Condition.evaluate session.state (unwords clause.condition) = .ok false) :
    clause.outcome none context session = .done session := by
  unfold outcome
  rw [missed]

end Clause

end NarrativeScript.Script
