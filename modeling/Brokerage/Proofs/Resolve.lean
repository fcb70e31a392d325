import Brokerage.Broker
import Brokerage.Proofs.Pipeline

/-!
# A call in two steps

The nine operations of a broker differ in how they look up catalog entries and agree in what they do
with the request they get. Here both are stated once.

* `Call.resolve`: the request that hooks and service see, or the failure of a missing entry.
* `Broker.carryOut?`: what becomes of a request that is resolved.
* `perform?_of_resolve_ok`, `perform?_of_resolve_error`: **a call is resolved, then carried out.**
* `perform?_of_serves`: a call that is served has a report.
* `Broker.offers`: the operations that a service does not leave out.
* `Pipeline.requests_run`: the service of a pipeline is given one request, or none where a hook stops
  it.
-/

namespace Brokerage

variable {α ρ : Type}

/-! ## Resolving a call -/

/-- The request of a call, its ids looked up in the catalog; the failure if an entry is missing that
the call depends on. -/
def Call.resolve (catalog : Catalog) : Call → Except Failure AnyRequest
  | .createInstance i => (catalog.require i.body.serviceId i.body.planId).map
      fun (service, plan) => .createInstance (i.createRequest service plan)
  | .updateInstance i => (catalog.requireOptionalPlan i.body.serviceId i.body.planId).map
      fun (service, plan) => .updateInstance (i.updateRequest service plan)
  | .deleteInstance i =>
    let (service, plan) := catalog.tolerate i.body.serviceId i.body.planId
    .ok (.deleteInstance (i.deleteRequest service plan))
  | .getInstance i => .ok (.getInstance i.getRequest)
  | .pollInstance i =>
    let (service, plan) := catalog.bestEffort i.body.serviceId i.body.planId
    .ok (.pollInstance (i.pollRequest service plan))
  | .createBinding i => (catalog.require i.body.serviceId i.body.planId).map
      fun (service, plan) => .createBinding (i.createRequest service plan)
  | .deleteBinding i =>
    let (service, plan) := catalog.tolerate i.body.serviceId i.body.planId
    .ok (.deleteBinding (i.deleteRequest service plan))
  | .getBinding i => .ok (.getBinding i.getRequest)
  | .pollBinding i =>
    let (service, plan) := catalog.bestEffort i.body.serviceId i.body.planId
    .ok (.pollBinding (i.pollRequest service plan))

theorem exceptBind_eq_ok {ε : Type} {x : Except ε α} {f : α → Except ε ρ} {y : ρ} :
    x >>= f = .ok y ↔ ∃ a, x = .ok a ∧ f a = .ok y := by
  cases x with
  | error e => exact ⟨nofun, fun ⟨_, h, _⟩ => nomatch h⟩
  | ok a => exact ⟨fun h => ⟨a, rfl, h⟩, fun ⟨_, h, hf⟩ => Except.ok.inj h ▸ hf⟩

theorem exceptMap_eq_ok {ε : Type} {x : Except ε α} {g : α → ρ} {r : ρ} :
    x.map g = .ok r ↔ ∃ a, x = .ok a ∧ g a = r := by
  cases x with
  | error e => exact ⟨nofun, fun ⟨_, h, _⟩ => nomatch h⟩
  | ok a => exact ⟨fun h => ⟨a, rfl, Except.ok.inj h⟩, by rintro ⟨_, ⟨⟩, rfl⟩; rfl⟩

theorem exceptMap_eq_error {ε : Type} {x : Except ε α} {g : α → ρ} {e : ε} :
    x.map g = .error e ↔ x = .error e := by
  cases x with
  | error e' =>
    constructor
    · intro h
      exact congrArg _ (Except.error.inj h)
    · intro h
      exact congrArg _ (Except.error.inj h)
  | ok a => exact ⟨nofun, nofun⟩

/-- The request of a call is one of its operation. -/
theorem operation_of_resolve {catalog : Catalog} {c : Call} {q : AnyRequest}
    (h : c.resolve catalog = .ok q) : q.operation = c.operation := by
  cases c with
  | createInstance i => obtain ⟨-, -, rfl⟩ := exceptMap_eq_ok.1 h; rfl
  | updateInstance i => obtain ⟨-, -, rfl⟩ := exceptMap_eq_ok.1 h; rfl
  | createBinding i => obtain ⟨-, -, rfl⟩ := exceptMap_eq_ok.1 h; rfl
  | _ => cases h; rfl

/-! ## Carrying out a request -/

namespace Broker

/-- The broker serves the operation: one about bindings only if a service keeps them. -/
def Serves (b : Broker) (op : Operation) : Prop :=
  op.resource = .serviceBinding → b.bindings.isSome = true

/-- What becomes of a request: hooks and service of its operation, without hooks for what is only
read; none where no service keeps bindings. -/
def carryOut? (b : Broker) : AnyRequest → Option Report
  | .createInstance q => some <| .ofRun .createInstance .createInstance .createInstance
      (Pipeline.run b.flows.createInstance (consult b.instances.create q))
  | .updateInstance q => some <| .ofRun .updateInstance .updateInstance .updateInstance
      (Pipeline.run b.flows.updateInstance (consult b.instances.update q))
  | .deleteInstance q => some <| .ofRun .deleteInstance .deleteInstance .deleteInstance
      (Pipeline.run b.flows.deleteInstance (consult b.instances.delete q))
  | .getInstance q => some <| .ofRun .getInstance .getInstance .getInstance
      (Pipeline.plain (consultIfOffered "get service instance" b.instances.get q))
  | .pollInstance q => some <| .ofRun .pollInstance .pollInstance .pollInstance
      (Pipeline.run b.flows.pollInstance (consultIfOffered "last operation" b.instances.poll q))
  | .createBinding q => b.bindings.map fun s => .ofRun .createBinding .createBinding .createBinding
      (Pipeline.run b.flows.createBinding (consult s.create q))
  | .deleteBinding q => b.bindings.map fun s => .ofRun .deleteBinding .deleteBinding .deleteBinding
      (Pipeline.run b.flows.deleteBinding (consult s.delete q))
  | .getBinding q => b.bindings.map fun s => .ofRun .getBinding .getBinding .getBinding
      (Pipeline.plain (consultIfOffered "get service instance binding" s.get q))
  | .pollBinding q => b.bindings.map fun s => .ofRun .pollBinding .pollBinding .pollBinding
      (Pipeline.run b.flows.pollBinding (consultIfOffered "last binding operation" s.poll q))

variable {b : Broker} {c : Call}

/-- **A call that is resolved is carried out.** -/
theorem perform?_of_resolve_ok {q : AnyRequest} (h : c.resolve b.catalog = .ok q) :
    b.perform? c = b.carryOut? q := by
  cases c with
  | createInstance i =>
    obtain ⟨_, he, rfl⟩ := exceptMap_eq_ok.1 h
    simp only [perform?, createInstance, he, carryOut?]
  | updateInstance i =>
    obtain ⟨_, he, rfl⟩ := exceptMap_eq_ok.1 h
    simp only [perform?, updateInstance, he, carryOut?]
  | createBinding i =>
    obtain ⟨_, he, rfl⟩ := exceptMap_eq_ok.1 h
    simp only [perform?, createBinding, he, carryOut?]
  | _ => cases h; rfl

/-- **A call that is not resolved fails** before anything else happens. -/
theorem perform?_of_resolve_error {f : Failure} (hb : b.Serves c.operation)
    (h : c.resolve b.catalog = .error f) : b.perform? c = some (.ofFailure c.operation f) := by
  cases c with
  | createInstance i =>
    have he := exceptMap_eq_error.1 h
    simp only [perform?, createInstance, he, Call.operation]
  | updateInstance i =>
    have he := exceptMap_eq_error.1 h
    simp only [perform?, updateInstance, he, Call.operation]
  | createBinding i =>
    have he := exceptMap_eq_error.1 h
    obtain ⟨s, hs⟩ := Option.isSome_iff_exists.1 (hb rfl)
    simp only [perform?, hs, Option.map_some, createBinding, he, Call.operation]
  | _ => cases h

end Broker

/-! ## What the service is given -/

/-- The request that the service is given in an event. -/
def Event.request? : Event α ρ → Option α
  | .service request => some request
  | _ => none

/-- The request that a service was given. -/
def Consultation.request? : Consultation α ρ → Option α
  | .asked request _ => some request
  | .notOffered _ => none

namespace Pipeline

theorem requests_events (business : Consultation α ρ) :
    (events business).filterMap Event.request? = business.request?.toList := by
  cases business <;> rfl

theorem requests_initialization (hooks : List Hook) :
    (hooks.map fun h => (.initialization h.name : Event α ρ)).filterMap Event.request? = [] := by
  simp [List.filterMap_eq_nil_iff, Event.request?]

theorem requests_aftermath (flows : FlowRegistry) (o : Outcome ρ) :
    (aftermath (α := α) flows o).filterMap Event.request? = [] := by
  cases o <;> simp [aftermath, List.filterMap_eq_nil_iff, Event.request?]

theorem requests_serving [Inhabited ρ] (flows : FlowRegistry) (business : Consultation α ρ) :
    (serving flows business).filterMap Event.request? = business.request?.toList := by
  unfold serving
  rw [List.filterMap_append, requests_events]
  cases business.outcome <;> simp [List.filterMap_eq_nil_iff, Event.request?]

/-- **The service of a pipeline is given one request**, or none where a hook before it fails or it
leaves out the operation. -/
theorem requests_run [Inhabited ρ] (flows : FlowRegistry) (business : Consultation α ρ) :
    (run flows business).trace.filterMap Event.request? =
      if Hook.firstFault? flows.initialization = none then business.request?.toList else [] := by
  rw [(run_eq flows business).1, List.filterMap_append, requests_aftermath, List.append_nil]
  unfold passage
  rw [List.filterMap_append, requests_initialization, List.nil_append]
  split
  · exact requests_serving flows business
  · rfl

end Pipeline

theorem Report.requests_eq (r : Report) : r.requests = r.trace.filterMap Event.request? := by
  unfold requests
  congr 1
  funext e
  cases e <;> rfl

theorem requests_map (request : α → AnyRequest) (response : ρ → AnyResponse)
    (trace : List (Event α ρ)) :
    (trace.map (·.map request response)).filterMap Event.request? =
      (trace.filterMap Event.request?).map request := by
  rw [List.filterMap_map, List.map_filterMap]
  congr 1
  funext e
  cases e <;> rfl

namespace Broker

/-- A service offers the operation. What changes a resource is always offered. -/
def offers (b : Broker) : Operation → Bool
  | .getInstance => b.instances.get.isSome
  | .pollInstance => b.instances.poll.isSome
  | .getBinding => b.bindings.any (·.get.isSome)
  | .pollBinding => b.bindings.any (·.poll.isSome)
  | _ => true

variable {b : Broker} {q : AnyRequest}

/-- A request of an operation that is served has a report. -/
theorem carryOut?_of_serves (hb : b.Serves q.operation) : ∃ report, b.carryOut? q = some report := by
  have bindings : ∀ g : BindingService → Report, q.operation.resource = .serviceBinding →
      ∃ report, b.bindings.map g = some report := by
    intro g hq
    obtain ⟨s, hs⟩ := Option.isSome_iff_exists.1 (hb hq)
    exact ⟨g s, by rw [hs]; rfl⟩
  cases q with
  | createBinding q => exact bindings _ rfl
  | deleteBinding q => exact bindings _ rfl
  | getBinding q => exact bindings _ rfl
  | pollBinding q => exact bindings _ rfl
  | _ => exact ⟨_, rfl⟩

/-- The report of a request is one of its operation. -/
theorem operation_of_carryOut? {report : Report} (h : b.carryOut? q = some report) :
    report.operation = q.operation := by
  cases q with
  | createBinding q => obtain ⟨s, -, rfl⟩ := Option.map_eq_some_iff.1 h; rfl
  | deleteBinding q => obtain ⟨s, -, rfl⟩ := Option.map_eq_some_iff.1 h; rfl
  | getBinding q => obtain ⟨s, -, rfl⟩ := Option.map_eq_some_iff.1 h; rfl
  | pollBinding q => obtain ⟨s, -, rfl⟩ := Option.map_eq_some_iff.1 h; rfl
  | _ => cases h; rfl

/-- **A call that is served has a report** of its operation. -/
theorem perform?_of_serves {c : Call} (hb : b.Serves c.operation) :
    ∃ report, b.perform? c = some report ∧ report.operation = c.operation := by
  cases h : c.resolve b.catalog with
  | error f => exact ⟨_, perform?_of_resolve_error hb h, rfl⟩
  | ok q =>
    have hop := operation_of_resolve h
    obtain ⟨report, hreport⟩ := carryOut?_of_serves (hop ▸ hb)
    refine ⟨report, (perform?_of_resolve_ok h).trans hreport, ?_⟩
    rw [operation_of_carryOut? hreport, hop]

end Broker

end Brokerage
