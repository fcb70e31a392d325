import Brokerage.Proofs.Counting
import Brokerage.Sample

/-!
# The metric of failed hooks

A session counts failed hooks by operation and phase. It tells them from the failure that is returned,
and a service can return a failure that looks like the one of a hook.

* `Ledger.flowFailures_recordAll`: what reports add to the metric.
* `Broker.hooksRun`: the hooks of a phase that ran during a call, as the log tells it;
  `names_hooksRun` says that it does.
* `Pipeline.counted_run`: **a run counts the hooks that failed, and the service if it blames a hook.**
* `flowFailures_afterAll`: the same for a session.
-/

namespace Brokerage

open Metrics (Series Samples)

variable {α ρ : Type}

/-- **Reports add up what they count.** -/
theorem Ledger.flowFailures_recordAll (l : Ledger) (rs : List Report) (op : Operation)
    (phase : FlowPhase) :
    (l.recordAll rs).metrics.count (.flowFailures op phase) =
      l.metrics.count (.flowFailures op phase) +
        ((rs.filter (·.operation = op)).map fun r => countOf phase r.flowFailures).sum := by
  rw [count_recordAll]
  simp only [Report.adds, List.sum_map_ite, List.map_const', List.sum_replicate, smul_zero,
    Nat.add_zero]

/-! ## Hooks that ran -/

/-- The phase of a note. -/
def FlowNote.phase : FlowNote → FlowPhase
  | initialization _ => .initialization
  | completion _ => .completion
  | error _ _ => .error

/-- The hooks of a phase that ran during a call: each leaves a note, and they run in their order. -/
def Broker.hooksRun (b : Broker) (r : Report) (phase : FlowPhase) : List Hook :=
  match b.flows.of? r.operation with
  | some flows => (flows.hooks phase).take (r.notes.countP (·.phase = phase))
  | none => []

/-- The number of hooks that fail. -/
def Hook.failing (hooks : List Hook) : Nat := hooks.countP (·.fault.isSome)

/-- Of the hooks that run up to a failure, one fails or none. -/
theorem Hook.failing_ran (hooks : List Hook) :
    failing (ran hooks) = if firstFault? hooks = none then 0 else 1 := by
  unfold failing
  induction hooks with
  | nil => rfl
  | cons h rest ih =>
    unfold firstFault?
    cases hf : h.fault with
    | some f =>
      rw [ran_cons_of_some hf, List.findSome?_cons, hf, if_neg nofun, List.countP_singleton, hf]
      rfl
    | none =>
      rw [ran_cons_of_none hf, List.findSome?_cons, hf, List.countP_cons, hf, ih]
      rfl

namespace Pipeline

/-- The hooks of each phase that a run runs. -/
def hooksRun (flows : FlowRegistry) (outcome : Outcome ρ) : FlowPhase → List Hook
  | .initialization => Hook.ran flows.initialization
  | .completion => completing flows outcome
  | .error =>
    match verdict flows outcome with
    | .error _ => flows.error
    | .ok _ => []

variable (flows : FlowRegistry) (outcome : Outcome ρ) (business : Consultation α ρ)
  (phase : FlowPhase)

/-- The hooks that run are the first of their phase. -/
theorem hooksRun_prefix : hooksRun flows outcome phase <+: flows.hooks phase := by
  cases phase with
  | initialization => exact List.take_prefix _ _
  | completion =>
    show completing flows outcome <+: flows.completion
    unfold completing
    split
    · exact List.take_prefix _ _
    · exact List.nil_prefix
  | error =>
    unfold hooksRun
    cases verdict flows outcome with
    | error f => exact List.prefix_refl _
    | ok response => exact List.nil_prefix

/-- The notes of a phase are those of the hooks that run. -/
theorem names_run [Inhabited ρ] :
    (((run flows business).trace.filterMap Event.note?).filter (·.phase = phase)).map (·.name) =
      (hooksRun flows business.outcome phase).map (·.name) := by
  rw [notes_run]
  unfold hooksRun
  cases verdict flows business.outcome <;> cases phase <;>
    simp [List.filter_map, Function.comp_def, FlowNote.phase, FlowNote.name]

/-! ## What a run counts -/

end Pipeline

/-- The phase of hooks that a failure is blamed on. -/
def Failure.blamed? : Failure → Option FlowPhase
  | hook phase _ => some phase.flowPhase
  | _ => none

theorem Failure.blamed?_ne_error (f : Failure) : f.blamed? ≠ some .error := by
  cases f with
  | hook phase cause => cases phase <;> nofun
  | _ => nofun

theorem Failure.countOf_hookFailure (f : Failure) (phase : FlowPhase) :
    countOf phase (Pipeline.hookFailure f) = if f.blamed? = some phase then 1 else 0 := by
  cases f with
  | hook p cause =>
    show countOf phase [(p.flowPhase, 1)] = if some p.flowPhase = some phase then 1 else 0
    rw [countOf_cons]
    simp only [Option.some.injEq]
    rfl
  | _ => rfl

namespace Pipeline

variable (flows : FlowRegistry) (business : Consultation α ρ) (phase : FlowPhase)

/-- Failures of hooks are counted after a failure only: the one it is blamed on, and every hook for
failures that fails. -/
theorem countOf_run [Inhabited ρ] :
    countOf phase (run flows business).flowFailures =
      match verdict flows business.outcome with
      | .error f => (if f.blamed? = some phase then 1 else 0) +
          if phase = .error then Hook.failing flows.error else 0
      | .ok _ => 0 := by
  have hcounted : ∀ n, countOf phase (if n = 0 then [] else [(.error, n)]) =
      if phase = .error then n else 0 := by
    intro n
    by_cases hn : n = 0
    · rw [if_pos hn, hn, ite_self]
      rfl
    · rw [if_neg hn, countOf_cons]
      simp only [eq_comm]
      rfl
  unfold run
  rw [stages_eq]
  cases verdict flows business.outcome with
  | ok response => rfl
  | error f =>
    simp only [FlowRegistry.recover_eq]
    rw [countOf_append, Failure.countOf_hookFailure, hcounted]
    rfl

/-- **A run counts the hooks that ran and failed**, and the service if it was asked and blames a hook
of the phase. -/
theorem counted_run [Inhabited ρ] :
    countOf phase (run flows business).flowFailures =
      Hook.failing (hooksRun flows business.outcome phase) +
        if Hook.firstFault? flows.initialization = none ∧
          business.outcome.failure?.bind Failure.blamed? = some phase then 1 else 0 := by
  rw [countOf_run]
  have hinit := Hook.failing_ran flows.initialization
  have hcompl := Hook.failing_ran flows.completion
  have hnone : Hook.failing [] = 0 := rfl
  cases hv : verdict flows business.outcome with
  | error f =>
    obtain ⟨g, hg, rfl⟩ | ⟨hi, hout⟩ | ⟨hi, hfailure, g, hg, rfl⟩ := verdict_cases hv
    · -- a hook before the service failed: the service is not asked
      cases phase <;>
        simp [hooksRun, completing, hv, hg, hinit, hnone, Failure.blamed?, HookPhase.flowPhase]
    · -- the service failed
      rw [hout] at hv ⊢
      cases phase <;>
        simp [hooksRun, completing, hv, hi, hinit, hnone, Outcome.failure?, Failure.blamed?_ne_error]
    · -- a hook after the service failed
      cases phase <;>
        simp [hooksRun, completing, hv, hg, hi, hinit, hcompl, hfailure, Failure.blamed?,
          HookPhase.flowPhase]
  | ok response =>
    obtain ⟨hi, hc, hout⟩ := verdict_ok hv
    rw [hout] at hv ⊢
    cases phase <;>
      simp [hooksRun, completing, hv, hi, hc, hinit, hcompl, hnone, Outcome.failure?]

end Pipeline

/-! ## What a session counts -/

namespace Broker

variable {b : Broker} {q : AnyRequest} {report : Report}

/-- The service answers the request with the failure of a hook of the phase, and hooks are counted. -/
def blamesHook (b : Broker) (phase : FlowPhase) (q : AnyRequest) : Bool :=
  (b.flows.of? q.operation).isSome && (b.complaint? q).bind Failure.blamed? = some phase

/-- The hooks that ran during a call with hooks are those of its run. -/
theorem hooksRun_ofRun [Response ρ] {wrap : α → AnyRequest} {view : ρ → AnyResponse}
    {flows : FlowRegistry} {op : Operation} (hflows : b.flows.of? op = some flows)
    (business : Consultation α ρ) (phase : FlowPhase) :
    b.hooksRun (.ofRun op wrap view (Pipeline.run flows business)) phase =
      Pipeline.hooksRun flows business.outcome phase := by
  -- the notes of the phase are as many as its hooks that ran, and these are the first ones
  have hlength := congrArg List.length (Pipeline.names_run flows business phase)
  rw [List.length_map, List.length_map, ← List.countP_eq_length_filter] at hlength
  have hnotes := Report.notes_ofRun op wrap view (Pipeline.run flows business)
  have hop : (Report.ofRun op wrap view (Pipeline.run flows business)).operation = op := rfl
  unfold hooksRun
  rw [hop, hflows, hnotes, hlength]
  exact (List.prefix_iff_eq_take.1 (Pipeline.hooksRun_prefix flows business.outcome phase)).symm

/-- **The log names the hooks that ran**, phase by phase. -/
theorem names_hooksRun (h : b.CarriesOut q report) (phase : FlowPhase) :
    (report.notes.filter (·.phase = phase)).map (·.name) = (b.hooksRun report phase).map (·.name) := by
  cases h with
  | @hooked _ _ _ wrap view business flows hflows hasks =>
    rw [hooksRun_ofRun hflows, Report.notes_ofRun]
    exact Pipeline.names_run flows business phase
  | @plain _ _ _ wrap view business hflows hasks =>
    have hnotes : (Report.ofRun q.operation wrap view (Pipeline.plain business)).notes = [] := by
      rw [Report.notes_ofRun]
      cases business <;> rfl
    have hop : (Report.ofRun q.operation wrap view (Pipeline.plain business)).operation =
        q.operation := rfl
    unfold hooksRun
    rw [hnotes, hop, hflows]
    rfl

/-- **A request counts the hooks that ran and failed**, and the service if it was asked and blames a
hook. -/
theorem counted_of_carriesOut (h : b.CarriesOut q report) (phase : FlowPhase) :
    countOf phase report.flowFailures =
      Hook.failing (b.hooksRun report phase) + report.requests.countP (b.blamesHook phase) := by
  have hrequests := requests_of_carriesOut h
  cases h with
  | @hooked _ _ _ wrap view business flows hflows hasks =>
    rw [hooksRun_ofRun hflows, hrequests]
    refine (Pipeline.counted_run flows business phase).trans (congrArg _ ?_)
    have hadmits := admits_of_hooked hflows
    -- a failure is blamed on a hook by the service alone: that it is not offered blames none
    cases hasks with
    | @asked a outcome hwrap hoffers hfails =>
      have hblames : b.blamesHook phase q = (outcome.failure?.bind Failure.blamed? = some phase) := by
        unfold blamesHook
        rw [hflows, hfails]
        simp
      by_cases hi : b.admits q.operation = true
      · rw [hoffers, hi, Bool.and_self, if_pos rfl, List.countP_singleton]
        simp only [hadmits.1 hi, true_and, hblames]
        rfl
      · rw [if_neg fun h => hi (hadmits.2 h.1), Bool.eq_false_iff.2 hi, Bool.and_false]
        rfl
    | notOffered hoffers =>
      rw [hoffers, Bool.false_and, if_neg Bool.false_ne_true, if_neg fun h => nomatch h.2]
      rfl
  | @plain _ _ _ wrap view business hflows hasks =>
    have hblames : b.blamesHook phase q = false := by
      unfold blamesHook
      rw [hflows]
      rfl
    have hnone : b.hooksRun (.ofRun q.operation wrap view (Pipeline.plain business)) phase = [] := by
      unfold hooksRun
      rw [show (Report.ofRun q.operation wrap view _).operation = q.operation from rfl, hflows]
    rw [hnone, hrequests]
    split
    · rw [List.countP_singleton, hblames]; rfl
    · rfl

/-- **What a call counts.** -/
theorem counted_of_perform? {c : Call} (h : b.perform? c = some report) (phase : FlowPhase) :
    countOf phase report.flowFailures =
      Hook.failing (b.hooksRun report phase) + report.requests.countP (b.blamesHook phase) := by
  by_cases hb : b.Serves c.operation
  · cases hq : c.resolve b.catalog with
    | ok q =>
      rw [perform?_of_resolve_ok hq] at h
      exact counted_of_carriesOut (carriesOut_of_carryOut? h) phase
    | error f =>
      -- an entry is missing: no hook runs, the service is not asked, nothing is counted
      rw [perform?_of_resolve_error hb hq] at h
      cases h
      unfold hooksRun
      cases b.flows.of? (Report.ofFailure c.operation f).operation with
      | none => rfl
      | some flows => cases phase <;> rfl
  · rw [perform?_of_not_serves hb] at h
    cases h

end Broker

/-- **What a session counts**: for each operation and phase the hooks that ran and failed, and the
requests that the service answered with the failure of a hook. -/
theorem flowFailures_afterAll (s : Session) (cs : List Call) (op : Operation) (phase : FlowPhase) :
    (s.afterAll cs).ledger.metrics.count (.flowFailures op phase) =
      s.ledger.metrics.count (.flowFailures op phase) +
        (((cs.filterMap s.broker.perform?).filter (·.operation = op)).map fun r =>
          Hook.failing (s.broker.hooksRun r phase) +
            r.requests.countP (s.broker.blamesHook phase)).sum := by
  rw [Session.afterAll_eq, Ledger.flowFailures_recordAll]
  congr 2
  refine List.map_congr_left fun r hr => ?_
  obtain ⟨c, -, hc⟩ := List.mem_filterMap.1 (List.mem_of_mem_filter hr)
  exact Broker.counted_of_perform? hc phase

namespace Sample

/-- A broker of the catalog without hooks, whose service answers a deletion with the failure of one. -/
def blaming : Broker where
  catalog := catalog
  instances := .scripted { delete := .error (.hook .initialization (.invalidParameters "refused")) }

/-- The metric does not count failed hooks alone: no hook ever fails here, and one is counted. -/
theorem service_counted_as_hook :
    ¬∀ (s : Session) (cs : List Call) (op : Operation) (phase : FlowPhase),
      (s.afterAll cs).ledger.metrics.count (.flowFailures op phase) =
        s.ledger.metrics.count (.flowFailures op phase) +
          (((cs.filterMap s.broker.perform?).filter (·.operation = op)).map fun r =>
            Hook.failing (s.broker.hooksRun r phase)).sum := by
  intro h
  have hcount := h blaming.session [.deleteInstance { instanceId, body := entry }] .deleteInstance
    .initialization
  exact absurd hcount (by decide)

end Sample

end Brokerage
