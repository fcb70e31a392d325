import Brokerage.Proofs.Report

/-!
# Runs that take the same course

Two runs are compared whose services say related things, each about requests and with responses of its
own. Failures may be told in other words, by services and by hooks alike, as long as what a hook wraps
stays wrapped.

* `Failure.Renaming`: a way to tell failures that hook wrappers do not get in the way of.
* `FlowRegistry.renamed`, `FlowNote.renamed`: hooks and notes with failures told this way.
* `Outcome.Related`, `Consultation.Related`: the services say related things, or fail alike.
* `Run.Related`: the outcomes are related, the same hooks noted the same, the services were given as
  many requests and as many failures of hooks are counted.
* `Pipeline.run_related`: **related consultations lead to related runs.**
-/

namespace Brokerage

variable {α β ρ σ : Type}

/-! ## Failures in other words -/

/-- A way to tell failures: a hook wrapper stays one, of the same phase, and nothing else becomes
one. -/
structure Failure.Renaming (φ : Failure → Failure) : Prop where
  hook : ∀ phase f, φ (.hook phase f) = .hook phase (φ f)
  hookFailure : ∀ f, Pipeline.hookFailure (φ f) = Pipeline.hookFailure f

theorem Failure.renaming_id : Failure.Renaming id where
  hook _ _ := rfl
  hookFailure _ := rfl

/-- The hook that tells its failure in other words. -/
def Hook.renamed (φ : Failure → Failure) (h : Hook) : Hook := { h with fault := h.fault.map φ }

/-- The registry whose hooks tell their failures in other words. -/
def FlowRegistry.renamed (φ : Failure → Failure) (r : FlowRegistry) : FlowRegistry where
  initialization := r.initialization.map (Hook.renamed φ)
  completion := r.completion.map (Hook.renamed φ)
  error := r.error.map (Hook.renamed φ)

/-- The note with its failure in other words. Hook and phase are the same. -/
def FlowNote.renamed (φ : Failure → Failure) : FlowNote → FlowNote
  | error name f => .error name (φ f)
  | note => note

@[simp] theorem Hook.renamed_id : Hook.renamed id = id := by
  funext h
  unfold Hook.renamed
  rw [Option.map_id]
  rfl

@[simp] theorem FlowRegistry.renamed_id (r : FlowRegistry) : r.renamed id = r := by
  unfold FlowRegistry.renamed
  simp only [Hook.renamed_id, List.map_id]

namespace Hook

variable (φ : Failure → Failure) (hooks : List Hook)

theorem firstFault?_renamed :
    firstFault? (hooks.map (renamed φ)) = (firstFault? hooks).map φ := by
  unfold firstFault?
  induction hooks with
  | nil => rfl
  | cons h rest ih =>
    rw [List.map_cons, List.findSome?_cons, List.findSome?_cons, ih]
    cases hf : h.fault <;> simp only [renamed, hf, Option.map_some, Option.map_none]

/-- Hooks fail whatever the words are, so as many of them run. -/
theorem ran_renamed : ran (hooks.map (renamed φ)) = (ran hooks).map (renamed φ) := by
  have hfails : (fun h : Hook => h.fault.isSome) ∘ renamed φ = fun h => h.fault.isSome :=
    funext fun h => Option.isSome_map
  unfold ran
  rw [List.findIdx_map, hfails, List.map_take]

/-- As many hooks fail. -/
theorem countP_renamed :
    (hooks.map (renamed φ)).countP (·.fault.isSome) = hooks.countP (·.fault.isSome) := by
  rw [List.countP_map]
  exact congrArg (List.countP · hooks) (funext fun h => Option.isSome_map)

end Hook

/-! ## What services say -/

/-- Two services say related things: nothing, responses that are related, or that they failed, told in
other words. -/
inductive Outcome.Related (φ : Failure → Failure) (rel : ρ → σ → Prop) :
    Outcome ρ → Outcome σ → Prop
  | failed (f : Failure) : Related φ rel (.error f) (.error (φ f))
  | silent : Related φ rel (.ok none) (.ok none)
  | answered {r : ρ} {r' : σ} (h : rel r r') : Related φ rel (.ok (some r)) (.ok (some r'))

/-- Two consultations are related: so is what they come to, and either both services are asked or
none. -/
structure Consultation.Related (φ : Failure → Failure) (rel : ρ → σ → Prop)
    (business : Consultation α ρ) (business' : Consultation β σ) : Prop where
  outcome : Outcome.Related φ rel business.outcome business'.outcome
  asked : business'.request?.isSome = business.request?.isSome

/-- **Two runs take the same course.** -/
structure Run.Related (φ : Failure → Failure) (rel : ρ → σ → Prop) (run : Run α ρ)
    (run' : Run β σ) : Prop where
  outcome : Outcome.Related φ rel run.outcome run'.outcome
  notes : run'.trace.filterMap Event.note? =
    (run.trace.filterMap Event.note?).map (FlowNote.renamed φ)
  calls : (run'.trace.filterMap Event.request?).length =
    (run.trace.filterMap Event.request?).length
  flowFailures : run'.flowFailures = run.flowFailures

variable {φ : Failure → Failure} {rel : ρ → σ → Prop}

theorem Consultation.Related.of_asked {o : Outcome ρ} {o' : Outcome σ}
    (h : Outcome.Related φ rel o o') (q : α) (q' : β) :
    Consultation.Related φ rel (.asked q o) (.asked q' o') where
  outcome := h
  asked := rfl

theorem Consultation.Related.length_requests {business : Consultation α ρ}
    {business' : Consultation β σ} (h : Consultation.Related φ rel business business') :
    business'.request?.toList.length = business.request?.toList.length := by
  have hasked := h.asked
  cases hq : business.request? <;> cases hq' : business'.request? <;>
    simp only [hq, hq', Option.isSome_some, Option.isSome_none, reduceCtorEq] at hasked <;> rfl

namespace Pipeline

variable (hφ : Failure.Renaming φ) (flows : FlowRegistry)

section

variable {o : Outcome ρ} {o' : Outcome σ} (ho : Outcome.Related φ rel o o')

include ho

include hφ in
/-- What is returned is related. -/
theorem verdict_related : Outcome.Related φ rel (verdict flows o) (verdict (flows.renamed φ) o') := by
  have hook : ∀ phase f, Outcome.Related φ rel (.error (.hook phase f) : Outcome ρ)
      (.error (.hook phase (φ f)) : Outcome σ) := by
    intro phase f
    rw [← hφ.hook]
    exact .failed _
  unfold verdict FlowRegistry.renamed
  rw [Hook.firstFault?_renamed, Hook.firstFault?_renamed]
  cases Hook.firstFault? flows.initialization with
  | some f => exact hook _ f
  | none =>
    cases ho with
    | failed f => exact .failed f
    | silent =>
      cases Hook.firstFault? flows.completion with
      | some f => exact hook _ f
      | none => exact .silent
    | answered h =>
      cases Hook.firstFault? flows.completion with
      | some f => exact hook _ f
      | none => exact .answered h

/-- The same hooks run after the service. -/
theorem completing_related :
    completing (flows.renamed φ) o' = (completing flows o).map (Hook.renamed φ) := by
  have hinit : Hook.firstFault? (flows.renamed φ).initialization = none ↔
      Hook.firstFault? flows.initialization = none := by
    show Hook.firstFault? (flows.initialization.map (Hook.renamed φ)) = none ↔ _
    rw [Hook.firstFault?_renamed, Option.map_eq_none_iff]
  have hfails : o'.failure? = none ↔ o.failure? = none := by
    cases ho with
    | failed f => exact ⟨nofun, nofun⟩
    | silent => exact Iff.rfl
    | answered h => exact Iff.rfl
  unfold completing
  simp only [hinit, hfails]
  split
  · exact Hook.ran_renamed φ flows.completion
  · rfl

end

variable {business : Consultation α ρ} {business' : Consultation β σ}
  (h : Consultation.Related φ rel business business')

include h

section

variable [Inhabited ρ] [Inhabited σ]

include hφ in
theorem flowFailures_related :
    (run (flows.renamed φ) business').flowFailures = (run flows business).flowFailures := by
  have hfailing : (flows.renamed φ).error.countP (·.fault.isSome) =
      flows.error.countP (·.fault.isSome) := Hook.countP_renamed φ flows.error
  have hverdict := verdict_related hφ flows h.outcome
  unfold run
  rw [stages_eq, stages_eq]
  generalize verdict flows business.outcome = v at hverdict ⊢
  generalize verdict (flows.renamed φ) business'.outcome = v' at hverdict ⊢
  cases hverdict with
  | failed f => simp only [FlowRegistry.recover_eq, hφ.hookFailure, hfailing]
  | silent => rfl
  | answered h => rfl

include hφ in
/-- The same hooks make the same notes, with failures in other words. -/
theorem notes_related :
    (run (flows.renamed φ) business').trace.filterMap Event.note? =
      ((run flows business).trace.filterMap Event.note?).map (FlowNote.renamed φ) := by
  have hbefore : Hook.ran (flows.renamed φ).initialization =
      (Hook.ran flows.initialization).map (Hook.renamed φ) :=
    Hook.ran_renamed φ flows.initialization
  have hverdict := verdict_related hφ flows h.outcome
  rw [notes_run, notes_run, hbefore, completing_related flows h.outcome, List.map_append,
    List.map_append]
  generalize verdict flows business.outcome = v at hverdict ⊢
  generalize verdict (flows.renamed φ) business'.outcome = v' at hverdict ⊢
  congr 1
  · simp only [List.map_map]
    rfl
  · cases hverdict with
    | failed f =>
      simp only [List.map_map]
      exact List.map_map
    | silent => rfl
    | answered h => rfl

/-- The services are given as many requests. -/
theorem calls_related :
    ((run (flows.renamed φ) business').trace.filterMap Event.request?).length =
      ((run flows business).trace.filterMap Event.request?).length := by
  have hinit : Hook.firstFault? (flows.renamed φ).initialization =
      (Hook.firstFault? flows.initialization).map φ := Hook.firstFault?_renamed φ flows.initialization
  rw [requests_run, requests_run, hinit]
  simp only [Option.map_eq_none_iff]
  split
  · exact h.length_requests
  · rfl

include hφ in
/-- **Related consultations lead to related runs.** -/
theorem run_related : Run.Related φ rel (run flows business) (run (flows.renamed φ) business') where
  outcome := by
    rw [(run_eq _ _).2, (run_eq _ _).2]
    exact verdict_related hφ flows h.outcome
  notes := notes_related hφ flows h
  calls := calls_related flows h
  flowFailures := flowFailures_related hφ flows h

end

/-- Without hooks, a run is its consultation. -/
theorem plain_related : Run.Related φ rel (plain business) (plain business') where
  outcome := h.outcome
  notes := by
    have hnone : ∀ {γ τ : Type} (c : Consultation γ τ),
        (events c).filterMap Event.note? = [] := by
      intro γ τ c
      cases c <;> rfl
    show (events business').filterMap Event.note? = ((events business).filterMap Event.note?).map _
    rw [hnone, hnone]
    rfl
  calls := by
    show ((events business').filterMap Event.request?).length =
      ((events business).filterMap Event.request?).length
    rw [requests_events, requests_events, h.length_requests]
  flowFailures := rfl

end Pipeline

end Brokerage
