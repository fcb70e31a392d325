import Brokerage.Proofs.Report
import Brokerage.Sample

/-!
# What does not depend on the catalog

Deletions, polls and reads make do with the catalog entries that they find. Two brokers that differ
in their catalogs alone deal with such a call alike: what differs is at most the entries that the
request carries to hooks and service.

* `Pipeline.run_mapRequest`: a run only passes its request on.
* `Report.mapRequests`: the report with other requests for the services.
* `AnyRequest.withoutEntries`, `Report.withoutEntries`: the same without catalog entries.
* `Broker.IgnoresEntries`: the services look at what they are asked, not at the entries in it.
* `Broker.Blames`: where a failure comes from, a service or a hook.
* `spared_calls_ignore_catalog`: **two catalogs, one call, the same report but for the entries**; and a
  missing entry is reported only by a service or a hook.
-/

namespace Brokerage

variable {α β ρ σ : Type}

/-! ## Runs pass their request on -/

/-- The consultation about another request. -/
def Consultation.mapRequest (f : α → β) : Consultation α ρ → Consultation β ρ
  | asked request outcome => .asked (f request) outcome
  | notOffered failure => .notOffered failure

/-- The run with another request. -/
def Run.mapRequest (f : α → β) (run : Run α ρ) : Run β ρ :=
  ⟨run.trace.map (·.map f id), run.outcome, run.flowFailures⟩

namespace Pipeline

variable (f : α → β) (flows : FlowRegistry) (business : Consultation α ρ)

theorem events_mapRequest :
    events (business.mapRequest f) = (events business).map (·.map f id) := by
  cases business <;> rfl

theorem outcome_mapRequest : (business.mapRequest f).outcome = business.outcome := by
  cases business <;> rfl

variable [Inhabited ρ]

theorem serving_mapRequest :
    serving flows (business.mapRequest f) = (serving flows business).map (·.map f id) := by
  unfold serving
  rw [List.map_append, events_mapRequest, outcome_mapRequest]
  cases business.outcome with
  | error e => rfl
  | ok response => simp only [List.map_map]; rfl

theorem passage_mapRequest :
    passage flows (business.mapRequest f) = (passage flows business).map (·.map f id) := by
  unfold passage
  rw [List.map_append, List.map_map, serving_mapRequest]
  congr 1
  split <;> rfl

/-- **A run passes its request on** and does nothing else with it. -/
theorem run_mapRequest :
    run flows (business.mapRequest f) = (run flows business).mapRequest f := by
  unfold run Run.mapRequest
  rw [stages_eq, stages_eq, passage_mapRequest, outcome_mapRequest]
  cases verdict flows business.outcome with
  | ok response => rfl
  | error e =>
    simp only [FlowRegistry.recover_eq, List.map_append, List.map_map]
    rfl

end Pipeline

/-! ## Reports about other requests -/

/-- The report with other requests for the services. -/
def Report.mapRequests (g : AnyRequest → AnyRequest) (r : Report) : Report :=
  { r with trace := r.trace.map (·.map g id) }

theorem Report.notes_mapRequests (g : AnyRequest → AnyRequest) (r : Report) :
    (r.mapRequests g).notes = r.notes := by
  unfold notes mapRequests
  rw [List.filterMap_map]
  exact congrArg (List.filterMap · r.trace) (funext fun e => Event.note?_map _ _ e)

theorem Report.requests_mapRequests (g : AnyRequest → AnyRequest) (r : Report) :
    (r.mapRequests g).requests = r.requests.map g := by
  rw [requests_eq, requests_eq]
  exact requests_map g id r.trace

/-- Other requests for the service are a matter of the request that a run passed on. -/
theorem Report.mapRequests_ofRun [Response ρ] (g : AnyRequest → AnyRequest) (op : Operation)
    (wrap : α → AnyRequest) (view : ρ → AnyResponse) (run : Run α ρ) :
    (ofRun op wrap view run).mapRequests g = ofRun op id view (run.mapRequest (g ∘ wrap)) := by
  unfold ofRun ofAnswer mapRequests Run.mapRequest
  simp only [List.map_map]
  congr 2
  funext e
  cases e <;> rfl

/-! ## Without catalog entries -/

/-- The request without the catalog entries that its ids were resolved to. A request that needs its
entries keeps them. -/
def AnyRequest.withoutEntries : AnyRequest → AnyRequest
  | .deleteInstance q => .deleteInstance { q with service := .placeholder, plan := none }
  | .pollInstance q => .pollInstance { q with service := none, plan := none }
  | .deleteBinding q => .deleteBinding { q with service := .placeholder, plan := none }
  | .pollBinding q => .pollBinding { q with service := none, plan := none }
  | q => q

/-- The report without the catalog entries of its request. -/
def Report.withoutEntries (r : Report) : Report :=
  { r with trace := r.trace.map (·.map AnyRequest.withoutEntries id) }

/-- Two reports differ at most in the catalog entries of the requests in them: the answers are the
same, the same hooks ran in the same order and saw the same, the services were asked as often, and the
same is counted. -/
structure Report.SameButEntries (r r' : Report) : Prop where
  answer : r.answer = r'.answer
  notes : r.notes = r'.notes
  calls : r.requests.length = r'.requests.length
  counted : r.counted = r'.counted
  flowFailures : r.flowFailures = r'.flowFailures
  trace : r.trace.map (·.map AnyRequest.withoutEntries id) =
    r'.trace.map (·.map AnyRequest.withoutEntries id)

theorem Report.notes_withoutEntries (r : Report) : r.withoutEntries.notes = r.notes :=
  notes_mapRequests AnyRequest.withoutEntries r

theorem Report.requests_withoutEntries (r : Report) :
    r.withoutEntries.requests = r.requests.map AnyRequest.withoutEntries :=
  requests_mapRequests AnyRequest.withoutEntries r

theorem Report.sameButEntries {r r' : Report} (h : r.withoutEntries = r'.withoutEntries) :
    r.SameButEntries r' where
  answer := (congrArg answer h :)
  notes := by rw [← notes_withoutEntries r, h, notes_withoutEntries]
  calls := by
    have hlength := congrArg (List.length ∘ requests) h
    simpa [requests_withoutEntries] using hlength
  counted := (congrArg counted h :)
  flowFailures := (congrArg flowFailures h :)
  trace := (congrArg trace h :)

/-- Leaving out the entries is a matter of the request that was passed on. -/
theorem Report.withoutEntries_ofRun [Response ρ] (op : Operation) (wrap : α → AnyRequest)
    (view : ρ → AnyResponse) (run : Run α ρ) :
    (ofRun op wrap view run).withoutEntries =
      ofRun op id view (run.mapRequest (AnyRequest.withoutEntries ∘ wrap)) :=
  mapRequests_ofRun AnyRequest.withoutEntries op wrap view run

/-! ## Services that do not look at entries -/

/-- The services answer a deletion or a poll by what is asked, not by the catalog entries that come
with it. Services with fixed outcomes do. -/
structure Broker.IgnoresEntries (b : Broker) : Prop where
  deleteInstance : ∀ q service plan, b.instances.delete { q with service, plan } = b.instances.delete q
  pollInstance : ∀ poll, b.instances.poll = some poll →
    ∀ q service plan, poll { q with service, plan } = poll q
  deleteBinding : ∀ s, b.bindings = some s →
    ∀ q service plan, s.delete { q with service, plan } = s.delete q
  pollBinding : ∀ s poll, b.bindings = some s → s.poll = some poll →
    ∀ q service plan, poll { q with service, plan } = poll q

/-- Services with fixed outcomes ignore the entries. -/
theorem Broker.ignoresEntries_scripted (catalog : Catalog) (flows : FlowRegistries)
    (s : InstanceScript) (t : Option BindingScript) :
    Broker.IgnoresEntries ⟨catalog, .scripted s, t.map .scripted, flows⟩ where
  deleteInstance _ _ _ := rfl
  pollInstance := by rintro poll ⟨⟩ q service plan; rfl
  deleteBinding s hs := by
    obtain ⟨script, -, rfl⟩ := Option.map_eq_some_iff.1 hs
    intro q service plan
    rfl
  pollBinding s poll hs := by
    obtain ⟨script, -, rfl⟩ := Option.map_eq_some_iff.1 hs
    rintro ⟨⟩ q service plan
    rfl

/-! ## Two catalogs -/

section TwoRuns

variable [Response ρ] {op : Operation} {wrap : α → AnyRequest} {view : ρ → AnyResponse}
  {flows : FlowRegistry} {a a' : α}

/-- Two runs of a service that answers alike to requests that differ in their entries. -/
theorem withoutEntries_run_consult {service : α → Outcome ρ} (hs : service a = service a')
    (hw : (wrap a).withoutEntries = (wrap a').withoutEntries) :
    (Report.ofRun op wrap view (Pipeline.run flows (consult service a))).withoutEntries =
      (Report.ofRun op wrap view (Pipeline.run flows (consult service a'))).withoutEntries := by
  have hsame : (consult service a).mapRequest (AnyRequest.withoutEntries ∘ wrap) =
      (consult service a').mapRequest (AnyRequest.withoutEntries ∘ wrap) := by
    show Consultation.asked (wrap a).withoutEntries (service a) = .asked (wrap a').withoutEntries _
    rw [hs, hw]
  rw [Report.withoutEntries_ofRun, Report.withoutEntries_ofRun, ← Pipeline.run_mapRequest,
    ← Pipeline.run_mapRequest, hsame]

theorem withoutEntries_run_consultIfOffered {name : String} {service : Option (α → Outcome ρ)}
    (hs : ∀ s, service = some s → s a = s a')
    (hw : (wrap a).withoutEntries = (wrap a').withoutEntries) :
    (Report.ofRun op wrap view (Pipeline.run flows (consultIfOffered name service a))).withoutEntries =
      (Report.ofRun op wrap view
        (Pipeline.run flows (consultIfOffered name service a'))).withoutEntries := by
  cases service with
  | none => rfl
  | some s => exact withoutEntries_run_consult (hs s rfl) hw

end TwoRuns

/-! ## Where failures come from -/

/-- Where the failure of a report comes from: the service answered a request with it, or a hook of the
operation ran and reported the failure in it. -/
inductive Broker.Blames (b : Broker) (report : Report) : Failure → Prop
  | service {q : AnyRequest} {f : Failure} (hq : q ∈ report.requests)
      (hf : b.complaint? q = some f) : Blames b report f
  | hook {flows : FlowRegistry} {phase : HookPhase} {h : Hook} {f : Failure}
      (hflows : b.flows.of? report.operation = some flows)
      (hran : h ∈ Hook.ran (flows.hooks phase.flowPhase)) (hf : h.fault = some f) :
      Blames b report (.hook phase f)

/-- The failure that is reported first is that of a hook that ran. -/
theorem Hook.mem_ran_of_firstFault? {hooks : List Hook} {f : Failure}
    (h : firstFault? hooks = some f) : ∃ hook ∈ ran hooks, hook.fault = some f := by
  induction hooks with
  | nil => cases h
  | cons hook rest ih =>
    cases hf : hook.fault with
    | some g =>
      unfold firstFault? at h
      rw [List.findSome?_cons, hf] at h
      rw [ran_cons_of_some hf]
      exact ⟨hook, List.mem_cons_self, hf.trans h⟩
    | none =>
      unfold firstFault? at h
      rw [List.findSome?_cons, hf] at h
      obtain ⟨found, hmem, hfound⟩ := ih h
      rw [ran_cons_of_none hf]
      exact ⟨found, List.mem_cons_of_mem _ hmem, hfound⟩

namespace Broker

variable {b : Broker} {q : AnyRequest} {report : Report}

theorem Asks.complaint_or_notOffered {wrap : α → AnyRequest} {business : Consultation α ρ}
    (h : b.Asks q wrap business) {f : Failure} (hf : business.outcome = .error f) :
    (b.offers q.operation = true ∧ b.complaint? q = some f) ∨ ∃ name, f = .notOffered name := by
  cases h with
  | @asked a outcome hwrap hoffers hfails =>
    have hout : outcome = .error f := hf
    refine .inl ⟨hoffers, ?_⟩
    rw [← hfails, hout]
    rfl
  | notOffered hoffers => exact .inr ⟨_, (Except.error.inj hf).symm⟩

/-- **The failure of a report comes from the service or a hook**, unless the service does not offer
the operation; and hooks for failures see this failure and no other. -/
theorem blames_of_carriesOut (h : b.CarriesOut q report) {e : ErrorBody}
    (he : report.answer.body = .error e) :
    ∃ f, report.answer = .ofFailure report.operation f ∧
      (∀ note ∈ report.notes, ∀ g, note.failure? = some g → g = f) ∧
      (b.Blames report f ∨ ∃ name, f = .notOffered name) := by
  have hrequests := requests_of_carriesOut h
  -- an answer in the words of a failure is that to a failed outcome
  have hfailed : ∀ {ρ : Type} [Response ρ] {op : Operation} {outcome : Outcome ρ}
      {view : ρ → AnyResponse}, ((Answer.ofOutcome op outcome).map view).body = .error e →
        ∃ f, outcome = .error f := by
    intro ρ _ op outcome view hbody
    cases outcome with
    | error f => exact ⟨f, rfl⟩
    | ok response => cases response <;> cases hbody
  cases h with
  | @hooked _ _ _ wrap view business flows hflows hasks =>
    obtain ⟨f, hf⟩ := hfailed he
    have hverdict : Pipeline.verdict flows business.outcome = .error f :=
      (Pipeline.run_eq flows business).2.symm.trans hf
    refine ⟨f, ?_, ?_, ?_⟩
    · show (Answer.ofOutcome _ (Pipeline.run flows business).outcome).map view = _
      rw [hf]
      rfl
    · rw [Report.notes_ofRun, Pipeline.notes_run, hverdict]
      intro note hnote g hg
      simp only [List.mem_append, List.mem_map] at hnote
      obtain (⟨hook, -, rfl⟩ | ⟨hook, -, rfl⟩) | ⟨hook, -, rfl⟩ := hnote
      · cases hg
      · cases hg
      · exact (Option.some.inj hg).symm
    · -- a hook before the service, the service itself, or a hook after it
      obtain ⟨g, hg, rfl⟩ | ⟨hi, hout⟩ | ⟨-, -, g, hg, rfl⟩ := Pipeline.verdict_cases hverdict
      · obtain ⟨hook, hran, hfault⟩ := Hook.mem_ran_of_firstFault? hg
        exact .inl (.hook hflows hran hfault)
      · refine (hasks.complaint_or_notOffered hout).imp (fun ⟨hoffers, hcomplaint⟩ => ?_) id
        rw [hoffers, (admits_of_hooked hflows).2 hi, Bool.and_true, if_pos rfl] at hrequests
        exact .service (hrequests ▸ List.mem_cons_self) hcomplaint
      · obtain ⟨hook, hran, hfault⟩ := Hook.mem_ran_of_firstFault? hg
        exact .inl (.hook hflows hran hfault)
  | @plain _ _ _ wrap view business hflows hasks =>
    obtain ⟨f, hf⟩ := hfailed he
    refine ⟨f, ?_, ?_, ?_⟩
    · show (Answer.ofOutcome _ business.outcome).map view = _
      rw [show business.outcome = .error f from hf]
      rfl
    · rw [Report.notes_ofRun]
      intro note hnote
      have hnone : (Pipeline.plain business).trace.filterMap Event.note? = [] := by
        cases business <;> rfl
      rw [hnone] at hnote
      cases hnote
    · refine (hasks.complaint_or_notOffered hf).imp (fun ⟨hoffers, hcomplaint⟩ => ?_) id
      rw [hoffers, admits_of_plain hflows, Bool.and_true, if_pos rfl] at hrequests
      exact .service (hrequests ▸ List.mem_cons_self) hcomplaint

end Broker

/-! ## The law -/

/-- The operation makes do with the catalog entries that it finds: it deletes, reads or polls. -/
def Operation.spares (op : Operation) : Bool :=
  op.isDelete || op.isGet || op == .pollInstance || op == .pollBinding

/-- A call that makes do with what it finds is resolved in every catalog. -/
theorem resolve_of_spares {c : Call} (hc : c.operation.spares = true) (catalog : Catalog) :
    ∃ q, c.resolve catalog = .ok q := by
  cases c with
  | createInstance i => cases hc
  | updateInstance i => cases hc
  | createBinding i => cases hc
  | _ => exact ⟨_, rfl⟩

/-- **What does not depend on the catalog.** A broker whose services answer by what is asked deals with
a deletion, a read or a poll in the same way whatever its catalog: the answer, the hooks that run, the
failures they see and the number of requests to the service are the same, and only the catalog entries
in the request differ. Whatever the services, a failure that a catalog entry is missing was returned by
the service or reported by a hook that ran. -/
theorem spared_calls_ignore_catalog (b : Broker) (c : Call) (hc : c.operation.spares = true) :
    (b.IgnoresEntries → ∀ catalog,
      Option.Rel Report.SameButEntries (b.perform? c) ({ b with catalog }.perform? c)) ∧
    ∀ report e, b.perform? c = some report → report.answer.body = .error e →
      ∃ f, report.answer = .ofFailure c.operation f ∧
        (∀ note ∈ report.notes, ∀ g, note.failure? = some g → g = f) ∧
        ∀ entry id, f.root = .catalogNotFound entry id → b.Blames report f := by
  constructor
  · intro hb catalog
    -- bindings may have no service: then neither broker has a report
    have hbindings : ∀ {g g' : BindingService → Report},
        (∀ s, b.bindings = some s → (g s).withoutEntries = (g' s).withoutEntries) →
          Option.Rel Report.SameButEntries (b.bindings.map g) (b.bindings.map g') := by
      intro g g' hsame
      cases hs : b.bindings with
      | none => exact .none
      | some s => exact .some (Report.sameButEntries (hsame s hs))
    cases c with
    | createInstance i => cases hc
    | updateInstance i => cases hc
    | createBinding i => cases hc
    | deleteInstance i =>
      refine .some (Report.sameButEntries (withoutEntries_run_consult ?_ rfl))
      exact (hb.deleteInstance _ _ _).symm
    | getInstance i => exact .some (Report.sameButEntries rfl)
    | pollInstance i =>
      refine .some (Report.sameButEntries (withoutEntries_run_consultIfOffered ?_ rfl))
      exact fun poll hpoll => (hb.pollInstance poll hpoll _ _ _).symm
    | deleteBinding i =>
      refine hbindings fun s hs => withoutEntries_run_consult ?_ rfl
      exact (hb.deleteBinding s hs _ _ _).symm
    | getBinding i => exact hbindings fun s _ => rfl
    | pollBinding i =>
      refine hbindings fun s hs => withoutEntries_run_consultIfOffered ?_ rfl
      exact fun poll hpoll => (hb.pollBinding s poll hs hpoll _ _ _).symm
  · intro report e hreport he
    obtain ⟨q, hq⟩ := resolve_of_spares hc b.catalog
    rw [Broker.perform?_of_resolve_ok hq] at hreport
    have hop := (Broker.operation_of_carryOut? hreport).trans (operation_of_resolve hq)
    obtain ⟨f, hanswer, hnotes, hblames⟩ :=
      Broker.blames_of_carriesOut (Broker.carriesOut_of_carryOut? hreport) he
    refine ⟨f, hop ▸ hanswer, hnotes, fun entry id hroot => ?_⟩
    obtain hblames | ⟨name, rfl⟩ := hblames
    · exact hblames
    · cases hroot

namespace Sample

/-- A broker of the catalog whose service refuses to delete, with a hook for such failures. -/
def refusing : Broker where
  catalog := catalog
  instances := .scripted { delete := .error (.catalogNotFound .plan smallPlan.id) }
  flows := { deleteInstance := { error := [{ name := "cleanup" }] } }

/-- What deletes the instance. -/
def deletion : Call := .deleteInstance { instanceId, body := entry }

/-- A deletion when the service is offered and when nothing is: the service refuses it both times. -/
theorem deletion_ignores_catalog :
    Option.Rel Report.SameButEntries (refusing.perform? deletion)
      ({ refusing with catalog := {} }.perform? deletion) ∧
    ∃ f, (Answer.ofFailure .deleteInstance (.catalogNotFound .plan "plan-1") : Answer AnyResponse) =
        .ofFailure deletion.operation f ∧
      (∀ note ∈ [FlowNote.error "cleanup" (.catalogNotFound .plan "plan-1")],
        ∀ g, note.failure? = some g → g = f) ∧
      ∀ missing id, f.root = .catalogNotFound missing id →
        refusing.Blames (refusing.deleteInstance { instanceId, body := entry }) f :=
  have hscripted : refusing.IgnoresEntries := Broker.ignoresEntries_scripted _ _ _ none
  ⟨(spared_calls_ignore_catalog refusing deletion rfl).1 hscripted {},
    (spared_calls_ignore_catalog refusing deletion rfl).2 _ _ rfl rfl⟩

end Sample

end Brokerage
