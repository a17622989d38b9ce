import NarrativeScript.Dice.Prepared
import NarrativeScript.Proofs.Reading

/-!
# What a script touches

A script reads and writes only keys that it spells, and GOTO writes one more,
which it does not spell. Two runs from states that show the same at the tokens
of the script stay in step: they fail alike, cast the same dice and write the
same values at the same keys. All other keys keep their entries.
-/

namespace NarrativeScript.Script

open NarrativeScript.Text

/-- The tokens of all the pieces of a script. -/
def scriptTokens (script : Option String) : List String :=
  (pieces script).flatMap words

/-- The keys that statements made of the tokens may write. -/
def Footprint (tokens : List String) (key : String) : Prop :=
  key ∈ tokens ∨ key = questionKey ∧ Instruction.goto.word ∈ tokens

theorem Footprint.mono {tokens fewer : List String} {key : String} (h : Footprint fewer key)
    (sub : ∀ token ∈ fewer, token ∈ tokens) : Footprint tokens key := by
  rcases h with member | ⟨question, moves⟩
  · exact .inl (sub key member)
  · exact .inr ⟨question, sub _ moves⟩

theorem Action.footprint_key (action : Action) {tokens : List String}
    (word : action.instruction.word ∈ tokens) (params : ∀ param ∈ action.params, param ∈ tokens) :
    Footprint tokens action.key := by
  cases action with
  | goto destination => exact .inr ⟨rfl, word⟩
  | set key content => exact .inl (params key List.mem_cons_self)
  | copy origin key =>
      exact .inl (params key (List.mem_cons_of_mem origin List.mem_cons_self))
  | roll size key => exact .inl (params key (List.mem_cons_of_mem size List.mem_cons_self))
  | arithmetic operation left right => exact .inl (params left List.mem_cons_self)

/-- At each key both runs have kept the entry they started from, or both hold the same new
value. -/
def Parallel (first second left right : State) : Prop :=
  ∀ key, (left.slot? key = first.slot? key ∧ right.slot? key = second.slot? key) ∨
    ∃ value, left.slot? key = some (some value) ∧ right.slot? key = some (some value)

namespace Parallel

variable {first second left right : State}

theorem refl (first second : State) : Parallel first second first second :=
  fun _ => .inl ⟨rfl, rfl⟩

theorem set (first second : State) (key : String) (value : Value) :
    Parallel first second (first.set key value) (second.set key value) := by
  intro other
  rw [State.slot?_set, State.slot?_set]
  by_cases here : other = key
  · rw [if_pos here, if_pos here]
    exact .inr ⟨value, rfl, rfl⟩
  · rw [if_neg here, if_neg here]
    exact .inl ⟨rfl, rfl⟩

theorem trans {later latest : State} (h : Parallel first second left right)
    (g : Parallel left right later latest) : Parallel first second later latest := by
  intro key
  rcases g key with ⟨here, there⟩ | written
  · rw [here, there]
    exact h key
  · exact .inr written

theorem agreeOn {keys : List String} (h : Parallel first second left right)
    (agree : State.AgreeOn keys first second) : State.AgreeOn keys left right := by
  intro key member
  have before := agree key member
  unfold State.visible? State.get? at before ⊢
  rcases h key with ⟨here, there⟩ | ⟨value, here, there⟩
  · rw [here, there]
    exact before
  · rw [here, there]

end Parallel

variable {σ : Type}

/-- Two runs from these states have stayed in step. -/
structure InStep (first second : State) (left right : Outcome σ) : Prop where
  failure : left.failure? = right.failure?
  source : left.session.source = right.session.source
  entries : Parallel first second left.session.state right.session.state

/-- Runs in step stop together, or go on from the two states they have come to. -/
theorem InStep.andThen {first second : State} {left right : Outcome σ}
    (here : InStep first second left right) {next : Session σ → Outcome σ}
    (later : ∀ source, InStep left.session.state right.session.state
      (next ⟨left.session.state, source⟩) (next ⟨right.session.state, source⟩)) :
    InStep first second (left.andThen next) (right.andThen next) := by
  obtain ⟨failure, ⟨state, source⟩⟩ := left
  obtain ⟨other, ⟨changed, rest⟩⟩ := right
  have failures : failure = other := here.failure
  have sources : source = rest := here.source
  subst failures sources
  cases failure with
  | some failure => exact here
  | none =>
      have after := later source
      exact ⟨after.failure, after.source, here.entries.trans after.entries⟩

variable [Dice.Source σ] {first second : State}

/-- Both sessions come down to the same action, and it writes the same value in both. -/
theorem runLine_inStep (context : Context) {line : Line}
    (agree : State.AgreeOn line.tokens first second) (source : σ) :
    InStep first second (runLine context line ⟨first, source⟩)
      (runLine context line ⟨second, source⟩) := by
  rw [runLine_eq_settle, runLine_eq_settle, ← descend_congr context agree]
  cases target : descend context first line with
  | error failure => exact ⟨rfl, rfl, .refl first second⟩
  | ok found =>
      cases found with
      | none => exact ⟨rfl, rfl, .refl first second⟩
      | some action =>
          have same := Action.written_congr (agree.mono (mem_of_descend target).2) source
          dsimp only
          rw [← same]
          cases action.written first source with
          | error failure => exact ⟨rfl, rfl, .refl first second⟩
          | ok change => exact ⟨rfl, rfl, .set first second action.key change.1⟩

theorem runLines_inStep (context : Context) {lines : List Line}
    (agree : ∀ line ∈ lines, State.AgreeOn line.tokens first second) (source : σ) :
    InStep first second (runLines context lines ⟨first, source⟩)
      (runLines context lines ⟨second, source⟩) := by
  induction lines generalizing first second source with
  | nil => exact ⟨rfl, rfl, .refl first second⟩
  | cons line rest ih =>
      have here := runLine_inStep context (agree line List.mem_cons_self) source
      exact here.andThen (ih fun other member =>
        here.entries.agreeOn (agree other (List.mem_cons_of_mem line member)))

/-- A line changes nothing, or the entry of one key that its tokens allow it to write. -/
theorem runLine_frame (context : Context) (line : Line) (session : Session σ) :
    (runLine context line session).session.state = session.state ∨
      ∃ written, Footprint line.tokens written ∧ ∀ key, key ≠ written →
        (runLine context line session).session.state.slot? key = session.state.slot? key := by
  rcases runLine_cases context line session with
    ⟨failure, failed⟩ | done | ⟨action, value, source, target, -, done⟩
  · rw [failed]
    exact .inl rfl
  · rw [done]
    exact .inl rfl
  · obtain ⟨word, params⟩ := mem_of_descend target
    refine .inr ⟨action.key, action.footprint_key word params, fun key other => ?_⟩
    rw [done]
    show (session.state.set action.key value).slot? key = _
    rw [State.slot?_set, if_neg other]

theorem runLine_slot? {context : Context} {line : Line} {session : Session σ} {key : String}
    (outside : ¬ Footprint line.tokens key) :
    (runLine context line session).session.state.slot? key = session.state.slot? key := by
  rcases runLine_frame context line session with same | ⟨written, inside, kept⟩
  · rw [same]
  · apply kept
    rintro rfl
    exact outside inside

theorem runLines_slot? {context : Context} {lines : List Line} {session : Session σ} {key : String}
    (outside : ∀ line ∈ lines, ¬ Footprint line.tokens key) :
    (runLines context lines session).session.state.slot? key = session.state.slot? key := by
  apply runLines_preserves (motive := fun state => state.slot? key = session.state.slot? key)
  · intro line member state source action value rest target _ same
    obtain ⟨word, params⟩ := mem_of_descend target
    have other : key ≠ action.key := by
      rintro rfl
      exact outside line member (action.footprint_key word params)
    rw [State.slot?_set, if_neg other, same]
  · rfl

theorem mem_scriptTokens {script : Option String} {line : Line}
    (member : line ∈ (pieces script).map Line.ofPiece) {token : String}
    (inside : token ∈ line.tokens) : token ∈ scriptTokens script := by
  obtain ⟨piece, cut, rfl⟩ := List.mem_map.1 member
  exact List.mem_flatMap.2 ⟨piece, cut, inside⟩

/-- Two states that hold the same at every token of a script are told apart by nothing the script
does. It changes no key that it does not spell, except that GOTO writes the question, and each of
its statements changes one key at most. -/
theorem script_touches_only_its_tokens :
    (∀ (context : Context) (script : Option String) (first second : State) (source : σ),
      (∀ token ∈ scriptTokens script, first.get? token = second.get? token) →
        InStep first second (run context script ⟨first, source⟩)
          (run context script ⟨second, source⟩)) ∧
    (∀ (context : Context) (script : Option String) (session : Session σ) (key : String),
      key ∉ scriptTokens script → (key = questionKey → "GOTO" ∉ scriptTokens script) →
        (run context script session).session.state.slot? key = session.state.slot? key) ∧
    ∀ (context : Context) (script : Option String) (session : Session σ), ∀ piece ∈ pieces script,
      ∃ written, ∀ key, key ≠ written →
        (runPiece (enter context) piece session).session.state.slot? key =
          session.state.slot? key := by
  refine ⟨?_, ?_, ?_⟩
  · intro context script first second source same
    rw [run_eq_runLines_ofPiece, run_eq_runLines_ofPiece]
    refine runLines_inStep context (fun line member token inside => ?_) source
    unfold State.visible?
    rw [same token (mem_scriptTokens member inside)]
  · intro context script session key absent still
    rw [run_eq_runLines_ofPiece]
    refine runLines_slot? fun line member inside => ?_
    rcases inside.mono fun token => mem_scriptTokens member with spelled | ⟨question, moves⟩
    · exact absent spelled
    · exact still question moves
  · intro context script session piece member
    rw [runPiece_eq_runLine (not_mem_of_mem_pieces member)]
    rcases runLine_frame context (.ofPiece piece) session with same | ⟨written, -, kept⟩
    · exact ⟨questionKey, fun key _ => by rw [same]⟩
    · exact ⟨written, kept⟩

/-- Only the key that the script does not spell differs, before and after. -/
theorem two_runs_with_different_secrets :
    let script := some "IF hp > 3 THEN ROLL 6 luck ELSE GOTO inn;ADD luck mana;SUB gold 1"
    let first : State := .ofList [("hp", some (.integer 7)), ("secret", some (.text "x"))]
    let second : State := .ofList [("hp", some (.integer 7)), ("secret", some (.boolean true))]
    let source : Dice.Prepared := ⟨[4]⟩
    (∀ token ∈ scriptTokens script, first.get? token = second.get? token) ∧
      InStep first second (run ⟨0, 32⟩ script ⟨first, source⟩) (run ⟨0, 32⟩ script ⟨second, source⟩) ∧
      "secret" ∉ scriptTokens script ∧
      ("secret" = questionKey → "GOTO" ∉ scriptTokens script) ∧
      (run ⟨0, 32⟩ script ⟨first, source⟩).session.state.slot? "secret" = some (some (.text "x")) ∧
      "ADD luck mana" ∈ pieces script ∧
      ∃ written, ∀ key, key ≠ written →
        (runPiece (enter ⟨0, 32⟩) "ADD luck mana" (Session.mk first source)).session.state.slot? key =
          first.slot? key := by
  intro script first second source
  have same : ∀ token ∈ scriptTokens script, first.get? token = second.get? token := by
    decide +kernel
  have unspelled : "secret" ∉ scriptTokens script := by decide +kernel
  have unmoved : "secret" = questionKey → "GOTO" ∉ scriptTokens script := by decide +kernel
  have cut : "ADD luck mana" ∈ pieces script := by decide +kernel
  refine ⟨same, ?_, unspelled, unmoved, ?_, cut, ?_⟩
  · exact script_touches_only_its_tokens.1 ⟨0, 32⟩ script first second source same
  · rw [script_touches_only_its_tokens.2.1 ⟨0, 32⟩ script ⟨first, source⟩ "secret" unspelled unmoved]
    decide +kernel
  · exact script_touches_only_its_tokens.2.2 ⟨0, 32⟩ script ⟨first, source⟩ _ cut

end NarrativeScript.Script
