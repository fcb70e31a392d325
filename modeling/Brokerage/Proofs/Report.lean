import Brokerage.Proofs.Resolve

/-!
# What a report tells

A request is carried out in one of two ways, with the hooks of its operation or plainly, and its
service is asked or leaves the operation out. What a report tells is read off these cases, whatever
the operation.

* `Broker.complaint?`: the failure that the service answers a request with.
* `Broker.CarriesOut`, `carriesOut_of_carryOut?`: **the two ways to carry out a request.**
* `Broker.handed?`: the request that a call hands to the service: it is resolved, no hook before the
  service fails, and the service offers the operation.
* `requests_of_perform?`: **the service is given this request and no other.**
* `Pipeline.verdict_cases`: where the failure of a run comes from.
* `Pipeline.notes_run`: the notes that a run leaves in the log, phase by phase.
-/

namespace Brokerage

variable {α β ρ σ : Type}

/-! ## Two ways to carry out a request -/

/-- The failure of an outcome. -/
def Outcome.failure? : Outcome ρ → Option Failure
  | .error f => some f
  | .ok _ => none

namespace Broker

/-- The failure that the service answers a request with, if it is asked and has one. -/
def complaint? (b : Broker) : AnyRequest → Option Failure
  | .createInstance q => (b.instances.create q).failure?
  | .updateInstance q => (b.instances.update q).failure?
  | .deleteInstance q => (b.instances.delete q).failure?
  | .getInstance q => b.instances.get.bind fun get => (get q).failure?
  | .pollInstance q => b.instances.poll.bind fun poll => (poll q).failure?
  | .createBinding q => b.bindings.bind fun s => (s.create q).failure?
  | .deleteBinding q => b.bindings.bind fun s => (s.delete q).failure?
  | .getBinding q => b.bindings.bind fun s => s.get.bind fun get => (get q).failure?
  | .pollBinding q => b.bindings.bind fun s => s.poll.bind fun poll => (poll q).failure?

/-- A consultation is the one about `q`, wrapped from a request of its operation's own type: the
service is asked, or it does not offer the operation. -/
inductive Asks (b : Broker) (q : AnyRequest) (wrap : α → AnyRequest) : Consultation α ρ → Prop
  | asked {a : α} {outcome : Outcome ρ} (hwrap : wrap a = q) (hoffers : b.offers q.operation = true)
      (hfails : outcome.failure? = b.complaint? q) : Asks b q wrap (.asked a outcome)
  | notOffered {name : String} (hoffers : b.offers q.operation = false) :
      Asks b q wrap (.notOffered (.notOffered name))

/-- **The two ways to carry out a request**: with the hooks of its operation, or plainly where it has
none. -/
inductive CarriesOut (b : Broker) (q : AnyRequest) : Report → Prop
  | hooked {α ρ : Type} [Response ρ] {wrap : α → AnyRequest} {view : ρ → AnyResponse}
      {business : Consultation α ρ} {flows : FlowRegistry}
      (hflows : b.flows.of? q.operation = some flows) (hasks : b.Asks q wrap business) :
      CarriesOut b q (.ofRun q.operation wrap view (Pipeline.run flows business))
  | plain {α ρ : Type} [Response ρ] {wrap : α → AnyRequest} {view : ρ → AnyResponse}
      {business : Consultation α ρ}
      (hflows : b.flows.of? q.operation = none) (hasks : b.Asks q wrap business) :
      CarriesOut b q (.ofRun q.operation wrap view (Pipeline.plain business))

variable {b : Broker} {q : AnyRequest} {report : Report}

theorem asks_consultIfOffered {wrap : α → AnyRequest} {a : α} {name : String}
    {service : Option (α → Outcome ρ)} (hwrap : wrap a = q)
    (hoffers : b.offers q.operation = service.isSome)
    (hfails : (service.bind fun s => (s a).failure?) = b.complaint? q) :
    b.Asks q wrap (consultIfOffered name service a) := by
  cases service with
  | none => exact .notOffered hoffers
  | some s => exact .asked hwrap hoffers hfails

/-- **A request is carried out in one of the two ways.** -/
theorem carriesOut_of_carryOut? (h : b.carryOut? q = some report) : b.CarriesOut q report := by
  cases q with
  | createInstance q => cases h; exact .hooked rfl (.asked rfl rfl rfl)
  | updateInstance q => cases h; exact .hooked rfl (.asked rfl rfl rfl)
  | deleteInstance q => cases h; exact .hooked rfl (.asked rfl rfl rfl)
  | getInstance q => cases h; exact .plain rfl (asks_consultIfOffered rfl rfl rfl)
  | pollInstance q => cases h; exact .hooked rfl (asks_consultIfOffered rfl rfl rfl)
  | createBinding q =>
    obtain ⟨s, hs, rfl⟩ := Option.map_eq_some_iff.1 h
    exact .hooked rfl (.asked rfl rfl (by simp only [complaint?, hs, Option.bind_some]))
  | deleteBinding q =>
    obtain ⟨s, hs, rfl⟩ := Option.map_eq_some_iff.1 h
    exact .hooked rfl (.asked rfl rfl (by simp only [complaint?, hs, Option.bind_some]))
  | getBinding q =>
    obtain ⟨s, hs, rfl⟩ := Option.map_eq_some_iff.1 h
    refine .plain rfl (asks_consultIfOffered rfl ?_ ?_)
    · simp only [AnyRequest.operation, offers, hs, Option.any_some]
    · simp only [complaint?, hs, Option.bind_some]
  | pollBinding q =>
    obtain ⟨s, hs, rfl⟩ := Option.map_eq_some_iff.1 h
    refine .hooked rfl (asks_consultIfOffered rfl ?_ ?_)
    · simp only [AnyRequest.operation, offers, hs, Option.any_some]
    · simp only [complaint?, hs, Option.bind_some]

/-! ## The request that is handed over -/

/-- No hook before the service fails. -/
def admits (b : Broker) (op : Operation) : Bool :=
  (b.flows.of? op).all fun flows => (Hook.firstFault? flows.initialization).isNone

instance (op : Operation) : Decidable (b.Serves op) := inferInstanceAs (Decidable (_ → _))

/-- **The request that a call hands to the service**: the one it is resolved to, unless no service
keeps bindings, the service leaves the operation out, or a hook before it fails. -/
def handed? (b : Broker) (c : Call) : Option AnyRequest :=
  (c.resolve b.catalog).toOption.filter fun q =>
    b.Serves q.operation && (b.offers q.operation && b.admits q.operation)

/-- What a call hands over is what it is resolved to. -/
theorem resolve_of_handed? {c : Call} (h : b.handed? c = some q) : c.resolve b.catalog = .ok q := by
  obtain ⟨hq, -⟩ := Option.filter_eq_some_iff.1 h
  cases hresolve : c.resolve b.catalog with
  | error f => rw [hresolve] at hq; cases hq
  | ok q' => rw [hresolve] at hq; exact congrArg _ (Option.some.inj hq)

theorem Asks.request?_eq {wrap : α → AnyRequest} {business : Consultation α ρ}
    (h : b.Asks q wrap business) :
    business.request?.map wrap = if b.offers q.operation then some q else none := by
  cases h with
  | asked hwrap hoffers _ => rw [hoffers, if_pos rfl, ← hwrap]; rfl
  | notOffered hoffers => rw [hoffers, if_neg Bool.false_ne_true]; rfl

theorem admits_of_hooked {flows : FlowRegistry} (h : b.flows.of? q.operation = some flows) :
    b.admits q.operation = true ↔ Hook.firstFault? flows.initialization = none := by
  unfold admits
  rw [h, Option.all_some, Option.isNone_iff_eq_none]

theorem admits_of_plain (h : b.flows.of? q.operation = none) : b.admits q.operation = true := by
  unfold admits
  rw [h]
  rfl

theorem requests_ofRun [Response ρ] (op : Operation) (wrap : α → AnyRequest)
    (view : ρ → AnyResponse) (run : Run α ρ) :
    (Report.ofRun op wrap view run).requests = (run.trace.filterMap Event.request?).map wrap := by
  rw [Report.requests_eq]
  exact requests_map wrap view run.trace

/-- **The service is given the request that is carried out**, once, if it offers the operation and no
hook before it fails. -/
theorem requests_of_carriesOut (h : b.CarriesOut q report) :
    report.requests = if b.offers q.operation && b.admits q.operation then [q] else [] := by
  have hgiven : ∀ {α ρ : Type} {wrap : α → AnyRequest} {business : Consultation α ρ},
      b.Asks q wrap business →
        business.request?.toList.map wrap = if b.offers q.operation then [q] else [] := by
    intro α ρ wrap business hasks
    rw [← Option.toList_map, hasks.request?_eq]
    split <;> rfl
  cases h with
  | hooked hflows hasks =>
    rw [requests_ofRun, Pipeline.requests_run]
    by_cases hadmits : b.admits q.operation = true
    · rw [if_pos ((admits_of_hooked hflows).1 hadmits), hgiven hasks, hadmits, Bool.and_true]
    · rw [if_neg (mt (admits_of_hooked hflows).2 hadmits), Bool.eq_false_iff.2 hadmits,
        Bool.and_false]
      rfl
  | plain hflows hasks =>
    rw [requests_ofRun, admits_of_plain hflows, Bool.and_true, ← hgiven hasks]
    exact congrArg (List.map _) (Pipeline.requests_events _)

/-- The same for a request with hooks, whose result decides. -/
theorem requests_of_carryOut? {flows : FlowRegistry} (hf : b.flows.of? q.operation = some flows)
    (h : b.carryOut? q = some report) :
    report.requests =
      if Hook.firstFault? flows.initialization = none ∧ b.offers q.operation then [q] else [] := by
  have hadmits := admits_of_hooked hf
  rw [requests_of_carriesOut (carriesOut_of_carryOut? h)]
  simp only [Bool.and_eq_true, hadmits, and_comm]

/-- A call about bindings cannot be made where no service keeps them. -/
theorem perform?_of_not_serves {c : Call} (hb : ¬b.Serves c.operation) : b.perform? c = none := by
  have hnone : c.operation.resource = .serviceBinding → b.bindings = none := fun _ =>
    Option.not_isSome_iff_eq_none.1 fun hs => hb fun _ => hs
  cases c with
  | createBinding i => simp only [perform?, hnone rfl, Option.map_none]
  | deleteBinding i => simp only [perform?, hnone rfl, Option.map_none]
  | getBinding i => simp only [perform?, hnone rfl, Option.map_none]
  | pollBinding i => simp only [perform?, hnone rfl, Option.map_none]
  | _ => exact absurd (fun h => by cases h) hb

/-- **A call hands over one request or none**: the service is given the request that the call is
resolved to, and no other. -/
theorem requests_of_perform? (b : Broker) (c : Call) :
    (b.perform? c).toList.flatMap Report.requests = (b.handed? c).toList := by
  unfold handed?
  -- without a service for bindings, or without an entry that is needed, nothing is handed over
  by_cases hb : b.Serves c.operation
  · cases hq : c.resolve b.catalog with
    | error f =>
      rw [perform?_of_resolve_error hb hq]
      rfl
    | ok q =>
      have hop := operation_of_resolve hq
      obtain ⟨report, hreport⟩ := carryOut?_of_serves (hop ▸ hb)
      have hrequests := requests_of_carriesOut (carriesOut_of_carryOut? hreport)
      rw [perform?_of_resolve_ok hq, hreport, Option.toList_some, List.flatMap_singleton, hrequests,
        Except.toOption, Option.filter_some, hop, decide_eq_true hb, Bool.true_and]
      split <;> rfl
  · rw [perform?_of_not_serves hb]
    cases hq : c.resolve b.catalog with
    | error f => rfl
    | ok q =>
      rw [Except.toOption, Option.filter_some, operation_of_resolve hq, decide_eq_false hb]
      rfl

/-- A request in the report of a call is the one that the call is resolved to, and the only one. -/
theorem resolve_of_mem_requests {c : Call} (h : b.perform? c = some report)
    (hq : q ∈ report.requests) : report.requests = [q] ∧ c.resolve b.catalog = .ok q := by
  have hrequests := requests_of_perform? b c
  rw [h, Option.toList_some, List.flatMap_singleton] at hrequests
  rw [hrequests, Option.mem_toList] at hq
  exact ⟨hrequests.trans (congrArg Option.toList hq), resolve_of_handed? hq⟩

end Broker

/-! ## Failures and notes of a run -/

/-- The hooks of a phase. -/
def FlowRegistry.hooks (r : FlowRegistry) : FlowPhase → List Hook
  | .initialization => r.initialization
  | .completion => r.completion
  | .error => r.error

namespace Pipeline

variable {flows : FlowRegistry} {outcome : Outcome ρ}

/-- **Where the failure of a run comes from**: the first hook before the service that fails, else the
service, else the first hook after it that fails. -/
theorem verdict_cases {f : Failure} (h : verdict flows outcome = .error f) :
    (∃ g, Hook.firstFault? flows.initialization = some g ∧ f = .hook .initialization g) ∨
      (Hook.firstFault? flows.initialization = none ∧ outcome = .error f) ∨
      (Hook.firstFault? flows.initialization = none ∧ outcome.failure? = none ∧
        ∃ g, Hook.firstFault? flows.completion = some g ∧ f = .hook .completion g) := by
  unfold verdict at h
  cases hi : Hook.firstFault? flows.initialization with
  | some g =>
    rw [hi] at h
    exact .inl ⟨g, rfl, (Except.error.inj h).symm⟩
  | none =>
    rw [hi] at h
    cases outcome with
    | error e => exact .inr (.inl ⟨rfl, congrArg _ (Except.error.inj h)⟩)
    | ok response =>
      cases hc : Hook.firstFault? flows.completion with
      | none => rw [hc] at h; cases h
      | some g =>
        rw [hc] at h
        exact .inr (.inr ⟨rfl, rfl, g, rfl, (Except.error.inj h).symm⟩)

/-- **A success is that of the service**, and no hook failed. -/
theorem verdict_ok {response : Option ρ} (h : verdict flows outcome = .ok response) :
    Hook.firstFault? flows.initialization = none ∧ Hook.firstFault? flows.completion = none ∧
      outcome = .ok response := by
  unfold verdict at h
  split at h
  · cases h
  · cases h
  · cases h
  · exact ⟨‹_›, ‹_›, congrArg _ (Except.ok.inj h)⟩

/-- The hooks after the service that run: none unless every hook before it and the service itself
succeed. -/
def completing (flows : FlowRegistry) (outcome : Outcome ρ) : List Hook :=
  if Hook.firstFault? flows.initialization = none ∧ outcome.failure? = none then
    Hook.ran flows.completion
  else []

/-- **The notes of a run**: hooks before the service, hooks after it, and after a failure every hook
for failures, which notes it. -/
theorem notes_run [Inhabited ρ] (flows : FlowRegistry) (business : Consultation α ρ) :
    (run flows business).trace.filterMap Event.note? =
      (Hook.ran flows.initialization).map (fun h => .initialization h.name) ++
        (completing flows business.outcome).map (fun h => .completion h.name) ++
        (match verdict flows business.outcome with
          | .error f => flows.error.map fun h => .error h.name f
          | .ok _ => []) := by
  have hmap : ∀ (event : Hook → Event α ρ) (note : Hook → FlowNote) (hooks : List Hook),
      (∀ h, (event h).note? = some (note h)) →
        (hooks.map event).filterMap Event.note? = hooks.map note := by
    intro event note hooks hnote
    rw [List.filterMap_map, ← List.filterMap_eq_map]
    exact congrArg (List.filterMap · hooks) (funext hnote)
  have hevents : (events business).filterMap Event.note? = [] := by
    cases business <;> rfl
  have hpassage : (passage flows business).filterMap Event.note? =
      (Hook.ran flows.initialization).map (fun h => .initialization h.name) ++
        (completing flows business.outcome).map (fun h => .completion h.name) := by
    unfold passage completing
    rw [List.filterMap_append, hmap _ _ _ fun h => rfl]
    congr 1
    by_cases hi : Hook.firstFault? flows.initialization = none
    · unfold serving
      rw [if_pos hi, List.filterMap_append, hevents, List.nil_append]
      cases business.outcome with
      | error e => rw [if_neg fun h => nomatch h.2]; rfl
      | ok response => rw [if_pos ⟨hi, rfl⟩]; exact hmap _ _ _ fun h => rfl
    · rw [if_neg hi, if_neg fun h => hi h.1]
      rfl
  rw [(run_eq flows business).1, List.filterMap_append, hpassage]
  congr 1
  unfold aftermath
  cases verdict flows business.outcome with
  | error f => exact hmap _ _ _ fun h => rfl
  | ok response => rfl

end Pipeline

theorem Event.note?_map (f : α → β) (g : ρ → σ) (e : Event α ρ) : (e.map f g).note? = e.note? := by
  cases e <;> rfl

theorem Report.notes_ofRun [Response ρ] (op : Operation) (wrap : α → AnyRequest)
    (view : ρ → AnyResponse) (run : Run α ρ) :
    (Report.ofRun op wrap view run).notes = run.trace.filterMap Event.note? := by
  unfold notes ofRun ofAnswer
  rw [List.filterMap_map]
  exact congrArg (List.filterMap · run.trace) (funext fun e => Event.note?_map _ _ e)

end Brokerage
