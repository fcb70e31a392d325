import Brokerage.Proofs.Report
import Brokerage.Sample

/-!
# The catalog gate

Creations and updates depend on entries of the catalog. A missing entry is answered before any hook
runs and before the service is called; with all entries there, the pipeline runs on a request that
carries them.

* `Call.wants?`: the ids that a call depends on.
* `requireOptionalPlan_some`: the two ways to look up what has to exist agree.
* `Report.refusal`: the report of a call that is turned away at the gate.
* `catalog_gate`: **a call is turned away exactly for its first missing entry**, and else its request
  carries the entries that its ids resolve to.
-/

namespace Brokerage

/-! ## Looking up what has to exist -/

namespace Catalog

theorem service?_eq_none_iff {c : Catalog} {id : String} :
    c.service? id = none ↔ ∀ d ∈ c.services, d.id ≠ id := by
  simp [service?, List.find?_eq_none]

theorem plan?_eq_none_iff {d : ServiceDefinition} {id : String} :
    d.plan? id = none ↔ ∀ p ∈ d.plans, p.id ≠ id := by
  simp [ServiceDefinition.plan?, List.find?_eq_none]

/-- An id of a plan that has to be given is looked up as one that may be. -/
theorem requireOptionalPlan_some (c : Catalog) (serviceId planId : String) :
    c.requireOptionalPlan serviceId (some planId) =
      (c.require serviceId planId).map fun (d, p) => (d, some p) := by
  unfold requireOptionalPlan require
  cases c.requireService serviceId with
  | error f => rfl
  | ok d => simp only; cases requirePlan d planId <;> rfl

theorem requireOptionalPlan_of_no_service {c : Catalog} {serviceId : String}
    (h : c.service? serviceId = none) (planId : Option String) :
    c.requireOptionalPlan serviceId planId = .error (.catalogNotFound .service serviceId) := by
  simp only [requireOptionalPlan, requireService, h]

theorem requireOptionalPlan_of_no_plan {c : Catalog} {serviceId planId : String}
    {d : ServiceDefinition} (h : c.service? serviceId = some d) (hp : d.plan? planId = none) :
    c.requireOptionalPlan serviceId (some planId) = .error (.catalogNotFound .plan planId) := by
  simp only [requireOptionalPlan, requireService, h, requirePlan, hp]
  rfl

theorem requireOptionalPlan_of_found {c : Catalog} {serviceId : String} {planId : Option String}
    {d : ServiceDefinition} (h : c.service? serviceId = some d)
    (hp : ∀ id, planId = some id → ∃ p ∈ d.plans, p.id = id) :
    c.requireOptionalPlan serviceId planId = .ok (d, planId.bind d.plan?) := by
  simp only [requireOptionalPlan, requireService, h]
  cases planId with
  | none => rfl
  | some id =>
    obtain ⟨p, hmem, hid⟩ := hp id rfl
    cases hfind : d.plan? id with
    | none => exact absurd hid (plan?_eq_none_iff.1 hfind p hmem)
    | some q =>
      simp only [requirePlan, hfind, Option.bind_some]
      rfl

end Catalog

/-! ## Calls that depend on the catalog -/

/-- The ids of the entries that have to exist for a call: of a service, and of a plan if it is
given. -/
def Call.wants? : Call → Option (String × Option String)
  | .createInstance i => some (i.body.serviceId, some i.body.planId)
  | .updateInstance i => some (i.body.serviceId, i.body.planId)
  | .createBinding i => some (i.body.serviceId, some i.body.planId)
  | _ => none

/-- The service that a request carries. -/
def AnyRequest.service? : AnyRequest → Option ServiceDefinition
  | .createInstance q => some q.service
  | .updateInstance q => some q.service
  | .deleteInstance q => some q.service
  | .getInstance _ => none
  | .pollInstance q => q.service
  | .createBinding q => some q.service
  | .deleteBinding q => some q.service
  | .getBinding _ => none
  | .pollBinding q => q.service

/-- The plan that a request carries. -/
def AnyRequest.plan? : AnyRequest → Option Plan
  | .createInstance q => some q.plan
  | .updateInstance q => q.plan
  | .deleteInstance q => q.plan
  | .getInstance _ => none
  | .pollInstance q => q.plan
  | .createBinding q => some q.plan
  | .deleteBinding q => q.plan
  | .getBinding _ => none
  | .pollBinding q => q.plan

variable {catalog : Catalog} {c : Call} {serviceId : String} {planId : Option String}

theorem resolve_of_missing (hc : c.wants? = some (serviceId, planId)) {f : Failure}
    (h : catalog.requireOptionalPlan serviceId planId = .error f) : c.resolve catalog = .error f := by
  cases c with
  | createInstance i =>
    obtain ⟨rfl, rfl⟩ := Prod.mk.inj (Option.some.inj hc)
    rw [Catalog.requireOptionalPlan_some, exceptMap_eq_error] at h
    exact exceptMap_eq_error.2 h
  | updateInstance i =>
    obtain ⟨rfl, rfl⟩ := Prod.mk.inj (Option.some.inj hc)
    exact exceptMap_eq_error.2 h
  | createBinding i =>
    obtain ⟨rfl, rfl⟩ := Prod.mk.inj (Option.some.inj hc)
    rw [Catalog.requireOptionalPlan_some, exceptMap_eq_error] at h
    exact exceptMap_eq_error.2 h
  | _ => cases hc

theorem resolve_of_found (hc : c.wants? = some (serviceId, planId)) {d : ServiceDefinition}
    {plan : Option Plan} (h : catalog.requireOptionalPlan serviceId planId = .ok (d, plan)) :
    ∃ q, c.resolve catalog = .ok q ∧ q.service? = some d ∧ q.plan? = plan := by
  cases c with
  | createInstance i =>
    obtain ⟨rfl, rfl⟩ := Prod.mk.inj (Option.some.inj hc)
    rw [Catalog.requireOptionalPlan_some, exceptMap_eq_ok] at h
    obtain ⟨⟨_, p⟩, he, ⟨⟩⟩ := h
    exact ⟨.createInstance (i.createRequest d p), exceptMap_eq_ok.2 ⟨_, he, rfl⟩, rfl, rfl⟩
  | updateInstance i =>
    obtain ⟨rfl, rfl⟩ := Prod.mk.inj (Option.some.inj hc)
    exact ⟨.updateInstance (i.updateRequest d plan), exceptMap_eq_ok.2 ⟨_, h, rfl⟩, rfl, rfl⟩
  | createBinding i =>
    obtain ⟨rfl, rfl⟩ := Prod.mk.inj (Option.some.inj hc)
    rw [Catalog.requireOptionalPlan_some, exceptMap_eq_ok] at h
    obtain ⟨⟨_, p⟩, he, ⟨⟩⟩ := h
    exact ⟨.createBinding (i.createRequest d p), exceptMap_eq_ok.2 ⟨_, he, rfl⟩, rfl, rfl⟩
  | _ => cases hc

/-! ## The gate -/

/-- The report of a call that depends on an entry the catalog does not have: 422 in words that name
the entry and its id. No hook runs and no service is called; the request is counted. -/
def Report.refusal (op : Operation) (entry : CatalogEntry) (id : String) : Report where
  operation := op
  answer := ⟨422, .error ⟨none, entry.label ++ " does not exist: id=" ++ id, none⟩⟩
  trace := []
  counted := [(op, 422)]
  flowFailures := []

/-- **The catalog gate**, for a call that depends on the entries of two ids. Without the service, or
with it but without the plan, the call is turned away. With both, the pipeline of its operation runs
on a request that carries them, and the service is given that request once if no hook before it
fails. -/
theorem catalog_gate (b : Broker) (c : Call) {serviceId : String} {planId : Option String}
    (hc : c.wants? = some (serviceId, planId)) (hb : b.Serves c.operation) :
    ((∀ d ∈ b.catalog.services, d.id ≠ serviceId) →
        b.perform? c = some (.refusal c.operation .service serviceId)) ∧
      ∀ d, b.catalog.service? serviceId = some d →
        (∀ id, planId = some id → (∀ p ∈ d.plans, p.id ≠ id) →
            b.perform? c = some (.refusal c.operation .plan id)) ∧
          ((∀ id, planId = some id → ∃ p ∈ d.plans, p.id = id) →
            ∃ flows request report, b.flows.of? c.operation = some flows ∧
              b.perform? c = some report ∧ b.carryOut? request = some report ∧
              request.operation = c.operation ∧ request.service? = some d ∧
              request.plan? = planId.bind d.plan? ∧
              report.requests =
                if Hook.firstFault? flows.initialization = none then [request] else []) := by
  refine ⟨fun hnone => ?_, fun d hd => ⟨?_, fun hplans => ?_⟩⟩
  · have hmissing := Catalog.requireOptionalPlan_of_no_service
      (Catalog.service?_eq_none_iff.2 hnone) planId
    exact Broker.perform?_of_resolve_error hb (resolve_of_missing hc hmissing)
  · rintro id rfl hnone
    have hmissing := Catalog.requireOptionalPlan_of_no_plan hd (Catalog.plan?_eq_none_iff.2 hnone)
    exact Broker.perform?_of_resolve_error hb (resolve_of_missing hc hmissing)
  · have hfound := Catalog.requireOptionalPlan_of_found hd hplans
    obtain ⟨request, hq, hservice, hplan⟩ := resolve_of_found hc hfound
    have hop := operation_of_resolve hq
    obtain ⟨report, hreport⟩ := Broker.carryOut?_of_serves (hop ▸ hb)
    -- what depends on the catalog has hooks, and no service leaves it out
    obtain ⟨flows, hflows, hoffers⟩ : ∃ flows, b.flows.of? c.operation = some flows ∧
        b.offers c.operation = true := by
      cases c with
      | createInstance i => exact ⟨_, rfl, rfl⟩
      | updateInstance i => exact ⟨_, rfl, rfl⟩
      | createBinding i => exact ⟨_, rfl, rfl⟩
      | _ => cases hc
    refine ⟨flows, request, report, hflows, ?_, hreport, hop, hservice, hplan, ?_⟩
    · rw [Broker.perform?_of_resolve_ok hq, hreport]
    · rw [Broker.requests_of_carryOut? (hop ▸ hflows) hreport, hop, hoffers]
      simp only [and_true]

/-- An update to a plan of the sample's service that does not exist. -/
def updateToNoPlan : Call :=
  .updateInstance { instanceId := "i-1", body := { serviceId := "sd-1", planId := some "plan-9" } }

theorem catalog_gate_no_plan :
    updateToNoPlan.wants? = some ("sd-1", some "plan-9") ∧
      Sample.broker.Serves updateToNoPlan.operation ∧
      Sample.broker.perform? updateToNoPlan = some (.refusal .updateInstance .plan "plan-9") := by
  have hserves : Sample.broker.Serves updateToNoPlan.operation := nofun
  have hgate := (catalog_gate Sample.broker updateToNoPlan rfl hserves).2 Sample.service rfl
  have hplan : ∀ p ∈ Sample.service.plans, p.id ≠ "plan-9" := by decide
  exact ⟨rfl, hserves, hgate.1 "plan-9" rfl hplan⟩

end Brokerage
