import NarrativeScript.Dice.Prepared
import NarrativeScript.Proofs.Clause
import NarrativeScript.Proofs.LastPair

/-!
# Chains and ladders of conditionals

Conditionals that stand in each other's ELSE branch make a chain: the first
condition that is not false settles it, and every clause that is passed over
costs a level. Conditionals that stand in each other's first branch make a
ladder: its body runs where all conditions hold. An ELSE behind a ladder belongs
to the outermost conditional, because each of them is cut at the first ELSE.
-/

namespace NarrativeScript.Script

open NarrativeScript.Text

/-- Clause after clause, each in the ELSE branch of the one before, and at last other tokens. -/
def chain (last : List String) : List Clause → List String
  | [] => last
  | clause :: rest => clause.tokens (some (chain last rest))

theorem chain_append (last : List String) (first second : List Clause) :
    chain last (first ++ second) = chain (chain last second) first := by
  induction first with
  | nil => rfl
  | cons clause rest ih => rw [List.cons_append, chain, chain, ih]

theorem isToken_of_mem_chain {clauses : List Clause} (plain : ∀ clause ∈ clauses, clause.IsPlain)
    {last : List String} (tokens : ∀ token ∈ last, IsToken token) :
    ∀ token ∈ chain last clauses, IsToken token := by
  induction clauses with
  | nil => exact tokens
  | cons clause rest ih =>
      obtain ⟨here, later⟩ := List.forall_mem_cons.1 plain
      apply here.isToken_of_mem
      rintro _ ⟨⟩
      exact ih later

/-- A chain that ends in a conditional of its own is, from each of its clauses on, that clause and
what stands in its ELSE branch. -/
theorem exists_chain_eq {before init after : List Clause} {clause final : Clause}
    (plain : ∀ other ∈ init ++ [final], other.IsPlain) {last : Option (List String)}
    (tokens : ∀ branch ∈ last, ∀ token ∈ branch, IsToken token)
    (cut : init ++ [final] = before ++ clause :: after) :
    ∃ otherwise, chain (final.tokens last) init = chain (clause.tokens otherwise) before ∧
      ∀ branch ∈ otherwise, ∀ token ∈ branch, IsToken token := by
  rcases List.eq_nil_or_concat after with rfl | ⟨rest, other, rfl⟩
  · obtain ⟨rfl, same⟩ := List.append_inj' cut rfl
    cases same
    exact ⟨last, rfl, tokens⟩
  · rw [List.concat_eq_append, ← List.cons_append, ← List.append_assoc] at cut
    obtain ⟨rfl, same⟩ := List.append_inj' cut rfl
    cases same
    obtain ⟨inside, ended⟩ := List.forall_mem_append.1 plain
    have later : ∀ clause ∈ rest, clause.IsPlain := fun other member =>
      inside other (by simp [member])
    refine ⟨some (chain (final.tokens last) rest), by rw [chain_append, chain], ?_⟩
    rintro _ ⟨⟩
    exact isToken_of_mem_chain later ((ended final (by simp)).isToken_of_mem tokens)

variable {σ : Type} [Dice.Source σ]

/-- By induction on the clauses: each one that is passed over leads one level deeper. -/
theorem run_chain {clauses : List Clause} (plain : ∀ clause ∈ clauses, clause.IsPlain)
    {last : List String} (tokens : ∀ token ∈ last, IsToken token) {context : Context}
    (within : context.depth ≤ context.limit) {session : Session σ}
    (passed : ∀ clause ∈ clauses,
      Condition.evaluate session.state (unwords clause.condition) = .ok false) :
    run context (some (unwords (chain last clauses))) session =
      atLevel context clauses.length session fun inner =>
        run inner (some (unwords last)) session := by
  induction clauses generalizing context with
  | nil =>
      rw [List.length_nil, atLevel_zero within]
      rfl
  | cons clause rest ih =>
      obtain ⟨here, later⟩ := List.forall_mem_cons.1 plain
      obtain ⟨missed, others⟩ := List.forall_mem_cons.1 passed
      have behind : ∀ token ∈ chain last rest, IsToken token := isToken_of_mem_chain later tokens
      have read : words (unwords (chain last (clause :: rest))) =
          clause.tokens (some (chain last rest)) :=
        words_unwords fun token member => (isToken_of_mem_chain plain tokens token member).isWord
      have entered : run context (some (unwords (chain last (clause :: rest)))) session =
          atLevel context 1 session fun inner =>
            run inner (some (unwords (chain last rest))) session := by
        rw [run_clause context here (by simpa using behind) read session]
        exact clause.outcome_of_false missed within _
      rw [entered, List.length_cons, Nat.add_comm, ← atLevel_atLevel]
      exact atLevel_congr fun room => ih later room others

/-- What the clause does that comes behind clauses that are passed over. -/
theorem run_chain_clause {before : List Clause} (plain : ∀ clause ∈ before, clause.IsPlain)
    {clause : Clause} (here : clause.IsPlain) {otherwise : Option (List String)}
    (tokens : ∀ branch ∈ otherwise, ∀ token ∈ branch, IsToken token) {context : Context}
    (within : context.depth ≤ context.limit) {session : Session σ}
    (passed : ∀ clause ∈ before,
      Condition.evaluate session.state (unwords clause.condition) = .ok false) :
    run context (some (unwords (chain (clause.tokens otherwise) before))) session =
      atLevel context before.length session fun inner =>
        clause.outcome otherwise inner session := by
  have solid : ∀ token ∈ clause.tokens otherwise, IsToken token := here.isToken_of_mem tokens
  rw [run_chain plain solid within passed]
  refine atLevel_congr fun room => ?_
  exact run_clause _ here tokens (words_unwords fun token member => (solid token member).isWord)
    session

/-- However a chain is laid out, it does what its tokens do with one space between them. -/
theorem run_chain_layout (context : Context) {init : List Clause} {final : Clause}
    (plain : ∀ clause ∈ init ++ [final], clause.IsPlain) {last : Option (List String)}
    (tokens : ∀ branch ∈ last, ∀ token ∈ branch, IsToken token) {text : String}
    (read : words text = chain (final.tokens last) init) (session : Session σ) :
    run context (some text) session =
      run context (some (unwords (chain (final.tokens last) init))) session := by
  obtain ⟨first, rest, split⟩ : ∃ first rest, init ++ [final] = [] ++ first :: rest := by
    cases init with
    | nil => exact ⟨final, [], rfl⟩
    | cons first rest => exact ⟨first, rest ++ [final], rfl⟩
  obtain ⟨otherwise, same, behind⟩ := exists_chain_eq plain tokens split
  have here : first.IsPlain := plain first (by rw [split]; simp)
  rw [same] at read ⊢
  have again : words (unwords (first.tokens otherwise)) = first.tokens otherwise :=
    words_unwords fun token member => (here.isToken_of_mem behind token member).isWord
  rw [run_clause context here behind read]
  exact (run_clause context here behind again session).symm

/-- The first condition of a chain that is not false settles it: where it holds its branch is run,
and where it fails the chain fails for it. Where all conditions are false the last branch is run, if
there is one. Each clause that is passed over and the branch that is run cost a level, and a level
beyond the limit is refused. -/
theorem else_if_chain_runs_first_true_branch {init : List Clause} {final : Clause}
    (plain : ∀ clause ∈ init ++ [final], clause.IsPlain) {last : Option (List String)}
    (tokens : ∀ branch ∈ last, ∀ token ∈ branch, IsToken token) {text : String}
    (read : words text = chain (final.tokens last) init) {context : Context}
    (within : context.depth ≤ context.limit) (session : Session σ) :
    (∀ before clause after, init ++ [final] = before ++ clause :: after →
      (∀ passed ∈ before,
        Condition.evaluate session.state (unwords passed.condition) = .ok false) →
      (Condition.evaluate session.state (unwords clause.condition) = .ok true →
        run context (some text) session =
          atLevel context (before.length + 1) session fun inner =>
            run inner (some (unwords clause.body)) session) ∧
      ∀ failure, Condition.evaluate session.state (unwords clause.condition) = .error failure →
        run context (some text) session =
          atLevel context before.length session fun _ => .failed failure session) ∧
    ((∀ clause ∈ init ++ [final],
        Condition.evaluate session.state (unwords clause.condition) = .ok false) →
      run context (some text) session =
        match last with
        | none => atLevel context init.length session fun _ => .done session
        | some branch =>
            atLevel context (init.length + 1) session fun inner =>
              run inner (some (unwords branch)) session) := by
  rw [run_chain_layout context plain tokens read]
  constructor
  · intro before clause after cut passed
    obtain ⟨otherwise, same, behind⟩ := exists_chain_eq plain tokens cut
    rw [cut] at plain
    obtain ⟨earlier, others⟩ := List.forall_mem_append.1 plain
    have here : clause.IsPlain := others clause List.mem_cons_self
    rw [same, run_chain_clause earlier here behind within passed]
    constructor
    · intro holds
      rw [← atLevel_atLevel]
      exact atLevel_congr fun room => clause.outcome_of_true holds room
    · intro failure failed
      exact atLevel_congr fun room => clause.outcome_of_error failed
  · intro missed
    obtain ⟨earlier, ended⟩ := List.forall_mem_append.1 plain
    obtain ⟨passed, behind⟩ := List.forall_mem_append.1 missed
    have here : final.IsPlain := ended final List.mem_cons_self
    have missedLast := behind final List.mem_cons_self
    rw [run_chain_clause earlier here tokens within passed]
    cases last with
    | none => exact atLevel_congr fun room => final.outcome_of_false_none missedLast
    | some branch =>
        dsimp only
        rw [← atLevel_atLevel]
        exact atLevel_congr fun room => final.outcome_of_false missedLast room branch

/-- The second clause of the chain is run on the second level, and refused where there is but
one. -/
theorem second_branch_rolls_on_second_level :
    let session : Session Dice.Prepared :=
      ⟨.ofList [("hp", some (.integer 3)), ("gold", some (.integer 7))], ⟨[4]⟩⟩
    let dead : Clause := ⟨["hp", "<", "1"], ["GOTO", "grave"]⟩
    let rich : Clause := ⟨["gold", ">", "5"], ["ROLL", "6", "luck"]⟩
    let calm := ["SET", "mood", "calm"]
    let text := "IF hp < 1 THEN GOTO grave\nELSE IF gold > 5 THEN ROLL 6 luck ELSE SET mood calm"
    (∀ clause ∈ [dead] ++ [rich], clause.IsPlain) ∧
      (∀ branch ∈ some calm, ∀ token ∈ branch, IsToken token) ∧
      words text = chain (rich.tokens (some calm)) [dead] ∧
      (∀ clause ∈ [dead],
        Condition.evaluate session.state (unwords clause.condition) = .ok false) ∧
      Condition.evaluate session.state (unwords rich.condition) = .ok true ∧
      run ⟨0, 2⟩ (some text) session = run ⟨2, 2⟩ (some "ROLL 6 luck") session ∧
      run ⟨0, 1⟩ (some text) session = .failed (.depthExceeded 2 1) session := by
  intro session dead rich calm text
  have plain : ∀ clause ∈ [dead] ++ [rich], clause.IsPlain := by decide +kernel
  have tokens : ∀ branch ∈ some calm, ∀ token ∈ branch, IsToken token := by decide +kernel
  have read : words text = chain (rich.tokens (some calm)) [dead] := by decide +kernel
  have passed : ∀ clause ∈ [dead],
      Condition.evaluate session.state (unwords clause.condition) = .ok false := by decide +kernel
  have holds : Condition.evaluate session.state (unwords rich.condition) = .ok true := by
    decide +kernel
  have settled : ∀ context : Context, context.depth ≤ context.limit →
      run context (some text) session =
        atLevel context 2 session fun inner => run inner (some "ROLL 6 luck") session := by
    intro context within
    obtain ⟨chosen, -⟩ := else_if_chain_runs_first_true_branch plain tokens read within session
    exact (chosen [dead] rich [] rfl passed).1 holds
  refine ⟨plain, tokens, read, passed, holds, ?_, ?_⟩
  · exact settled ⟨0, 2⟩ (by decide)
  · exact settled ⟨0, 1⟩ (by decide)

/-! ### Ladders -/

/-- Conditionals around a body, each of them the first branch of the one before. -/
def ladder (body : List String) : List (List String) → List String
  | [] => body
  | condition :: rest => (Clause.mk condition (ladder body rest)).tokens none

theorem isElseFree_ladder {conditions : List (List String)}
    (plain : ∀ condition ∈ conditions, IsUnmarked condition) {body : List String}
    (plainBody : IsElseFree body) : IsElseFree (ladder body conditions) := by
  induction conditions with
  | nil => exact plainBody
  | cons condition rest ih =>
      obtain ⟨here, later⟩ := List.forall_mem_cons.1 plain
      have clause : (Clause.mk condition (ladder body rest)).IsPlain := ⟨here, ih later⟩
      intro token member
      refine ⟨clause.isToken_of_mem (by simp) token member, ?_⟩
      rintro rfl
      rw [ladder, Clause.tokens, Clause.params, Clause.elsePart, List.append_nil] at member
      rcases List.mem_cons.1 member with mark | inside
      · exact absurd mark (by decide)
      · exact clause.elseToken_not_mem inside

section Ladder

variable {conditions : List (List String)} {body : List String} {context : Context}
  {session : Session σ}

/-- The first conditional of a ladder enters the rest of it where its condition holds. -/
theorem run_ladder_cons {condition : List String}
    (plain : ∀ other ∈ condition :: conditions, IsUnmarked other) (plainBody : IsElseFree body) :
    run context (some (unwords (ladder body (condition :: conditions)))) session =
      (Clause.mk condition (ladder body conditions)).outcome none context session := by
  obtain ⟨here, later⟩ := List.forall_mem_cons.1 plain
  have clause : (Clause.mk condition (ladder body conditions)).IsPlain :=
    ⟨here, isElseFree_ladder later plainBody⟩
  exact run_clause context clause (by simp) (words_unwords fun token member =>
    (isElseFree_ladder plain plainBody token member).1.isWord) session

theorem run_ladder (plain : ∀ condition ∈ conditions, IsUnmarked condition)
    (plainBody : IsElseFree body) (within : context.depth ≤ context.limit)
    (holds : ∀ condition ∈ conditions,
      Condition.evaluate session.state (unwords condition) = .ok true) :
    run context (some (unwords (ladder body conditions))) session =
      atLevel context conditions.length session fun inner =>
        run inner (some (unwords body)) session := by
  induction conditions generalizing context with
  | nil =>
      rw [List.length_nil, atLevel_zero within]
      rfl
  | cons condition rest ih =>
      obtain ⟨-, later⟩ := List.forall_mem_cons.1 plain
      obtain ⟨here, others⟩ := List.forall_mem_cons.1 holds
      rw [run_ladder_cons plain plainBody,
        (Clause.mk condition (ladder body rest)).outcome_of_true here within, List.length_cons,
        Nat.add_comm, ← atLevel_atLevel]
      exact atLevel_congr fun room => ih later room others

/-- A ladder without ELSE does nothing where a condition is false. -/
theorem run_ladder_of_false (plain : ∀ condition ∈ conditions, IsUnmarked condition)
    (plainBody : IsElseFree body)
    (wellFormed : ∀ condition ∈ conditions, Condition.IsWellFormed condition)
    (room : context.depth + conditions.length ≤ context.limit)
    (missed : ∃ condition ∈ conditions,
      Condition.evaluate session.state (unwords condition) = .ok false) :
    run context (some (unwords (ladder body conditions))) session = .done session := by
  induction conditions generalizing context with
  | nil => simp at missed
  | cons condition rest ih =>
      obtain ⟨here, later⟩ := List.forall_mem_cons.1 plain
      obtain ⟨formed, others⟩ := List.forall_mem_cons.1 wellFormed
      have solid : ∀ token ∈ condition, IsWord token := fun token member =>
        (here token member).1.isWord
      obtain ⟨result, evaluated⟩ :=
        (Condition.exists_evaluateTokens_eq_ok_iff session.state).2 formed
      rw [← evaluate_unwords session.state solid] at evaluated
      rw [List.length_cons] at room
      have deeper : context.depth + (1 : Nat) ≤ context.limit := by omega
      rw [run_ladder_cons plain plainBody]
      cases result with
      | false => exact (Clause.mk condition (ladder body rest)).outcome_of_false_none evaluated
      | true =>
          rw [(Clause.mk condition (ladder body rest)).outcome_of_true evaluated (by omega),
            atLevel_of_le deeper]
          refine ih later others ?_ ?_
          · show context.depth + (1 : Nat) + rest.length ≤ context.limit
            omega
          · obtain ⟨other, member, missedOther⟩ := missed
            rcases List.mem_cons.1 member with rfl | inside
            · rw [evaluated] at missedOther
              cases missedOther
            · exact ⟨other, inside, missedOther⟩

end Ladder

/-- An ELSE behind a ladder belongs to its outermost conditional. Its branch is run where the first
condition is false, the body where all conditions hold, and where the first holds and a later one
does not, nothing is done. -/
theorem first_else_belongs_to_outermost {first : List String} {rest : List (List String)}
    {body otherwise : List String} (plain : ∀ condition ∈ first :: rest, IsUnmarked condition)
    (plainBody : IsElseFree body) (tokens : ∀ token ∈ otherwise, IsToken token)
    (wellFormed : ∀ condition ∈ first :: rest, Condition.IsWellFormed condition) {text : String}
    (read : words text = (Clause.mk first (ladder body rest)).tokens (some otherwise))
    {context : Context} (room : context.depth + (rest.length + 1 : Nat) ≤ context.limit)
    (session : Session σ) :
    (Condition.evaluate session.state (unwords first) = .ok false →
      run context (some text) session =
        run (context.below 1) (some (unwords otherwise)) session) ∧
    ((∀ condition ∈ first :: rest,
        Condition.evaluate session.state (unwords condition) = .ok true) →
      run context (some text) session =
        run (context.below (rest.length + 1)) (some (unwords body)) session) ∧
    (Condition.evaluate session.state (unwords first) = .ok true →
      (∃ condition ∈ rest, Condition.evaluate session.state (unwords condition) = .ok false) →
        run context (some text) session = .done session) := by
  obtain ⟨here, later⟩ := List.forall_mem_cons.1 plain
  obtain ⟨-, formed⟩ := List.forall_mem_cons.1 wellFormed
  have clause : (Clause.mk first (ladder body rest)).IsPlain :=
    ⟨here, isElseFree_ladder later plainBody⟩
  have within : context.depth ≤ context.limit := by omega
  have deeper : context.depth + (1 : Nat) ≤ context.limit := by omega
  rw [run_clause context clause (by simpa using tokens) read]
  refine ⟨fun missed => ?_, fun holds => ?_, fun holds missed => ?_⟩
  · rw [(Clause.mk first (ladder body rest)).outcome_of_false missed within, atLevel_of_le deeper]
  · obtain ⟨holdsHere, others⟩ := List.forall_mem_cons.1 holds
    rw [(Clause.mk first (ladder body rest)).outcome_of_true holdsHere within]
    have climbed : (atLevel context 1 session fun inner =>
          run inner (some (unwords (ladder body rest))) session) =
        atLevel context (1 + rest.length) session fun inner =>
          run inner (some (unwords body)) session := by
      rw [← atLevel_atLevel]
      exact atLevel_congr fun inside => run_ladder later plainBody inside others
    rw [climbed, Nat.add_comm, atLevel_of_le room]
  · rw [(Clause.mk first (ladder body rest)).outcome_of_true holds within, atLevel_of_le deeper]
    refine run_ladder_of_false later plainBody formed ?_ missed
    show context.depth + (1 : Nat) + rest.length ≤ context.limit
    omega

/-- The branch behind ELSE is a conditional with marks of its own. It is run where the door is not
open, and not where the door is open and the gold is short. -/
theorem short_gold_leaves_else_branch_alone :
    let bag := fun (door : String) (gold : Int) =>
      State.ofList [("door", some (.text door)), ("gold", some (.integer gold))]
    let session := fun (door : String) (gold : Int) =>
      (⟨bag door gold, ⟨[4]⟩⟩ : Session Dice.Prepared)
    let first := ["door", "IS", "open"]
    let second := ["gold", ">", "5"]
    let body := ["GOTO", "hall"]
    let otherwise := ["IF", "gold", ">", "1", "THEN", "ROLL", "6", "luck", "ELSE", "GOTO", "yard"]
    let text := "IF door IS open THEN IF gold > 5 THEN GOTO hall " ++
      "ELSE IF gold > 1 THEN ROLL 6 luck ELSE GOTO yard"
    (∀ condition ∈ [first, second], IsUnmarked condition) ∧ IsElseFree body ∧
      (∀ token ∈ otherwise, IsToken token) ∧
      (∀ condition ∈ [first, second], Condition.IsWellFormed condition) ∧
      words text = (Clause.mk first (ladder body [second])).tokens (some otherwise) ∧
      run ⟨1, 3⟩ (some text) (session "shut" 3) =
        run ⟨2, 3⟩ (some (unwords otherwise)) (session "shut" 3) ∧
      run ⟨1, 3⟩ (some text) (session "open" 7) =
        run ⟨3, 3⟩ (some "GOTO hall") (session "open" 7) ∧
      run ⟨1, 3⟩ (some text) (session "open" 3) = .done (session "open" 3) := by
  intro bag session first second body otherwise text
  have plain : ∀ condition ∈ [first, second], IsUnmarked condition := by decide +kernel
  have plainBody : IsElseFree body := by decide +kernel
  have tokens : ∀ token ∈ otherwise, IsToken token := by decide +kernel
  have wellFormed : ∀ condition ∈ [first, second], Condition.IsWellFormed condition := by
    decide +kernel
  have read : words text = (Clause.mk first (ladder body [second])).tokens (some otherwise) := by
    decide +kernel
  have settled := fun (door : String) (gold : Int) =>
    first_else_belongs_to_outermost plain plainBody tokens wellFormed read
      (show (Context.mk 1 3).depth + ([second].length + 1 : Nat) ≤ (Context.mk 1 3).limit by decide)
      (session door gold)
  refine ⟨plain, plainBody, tokens, wellFormed, read, ?_, ?_, ?_⟩
  · exact (settled "shut" 3).1 (by decide +kernel)
  · exact (settled "open" 7).2.1 (by decide +kernel)
  · exact (settled "open" 3).2.2 (by decide +kernel)
      ⟨second, List.mem_cons_self, by decide +kernel⟩

end NarrativeScript.Script
