import Brokerage.Proofs.Addressing
import Brokerage.Proofs.Report
import Brokerage.Proofs.Transport

/-!
# What the service is given

A request of the protocol is taken apart, resolved and handed to a service. What the service is given
is what was sent.

* `AnyRequest.Says`: a request says what body or query say.
* `AnyRequest.Finds`: a request carries the catalog entries of its ids.
* `AnyRequest.AsSent`: a request is as it was sent: path, query, headers, body and catalog entries.
* `Http.Makes`, `makes_of_call`: **the parts of a call**, operation by operation.
* `Http.Makes.keeps`: **a request that is resolved keeps them**, with the entries of its ids.
* `call_of_report`: what is reported is a call made on a route.
* `service_is_given_what_was_sent`: **the service is given one request, and it is as it was sent.**
-/

namespace Brokerage

open Http (Param Params RawParams AcceptsIncomplete)

variable {α β ε : Type}

/-! ## Requests as they were sent -/

namespace AnyRequest

/-- The instance that a request is about. -/
def instanceId : AnyRequest → String
  | createInstance q => q.instanceId
  | updateInstance q => q.instanceId
  | deleteInstance q => q.instanceId
  | getInstance q => q.instanceId
  | pollInstance q => q.instanceId
  | createBinding q => q.instanceId
  | deleteBinding q => q.instanceId
  | getBinding q => q.instanceId
  | pollBinding q => q.instanceId

/-- The binding that a request is about. -/
def bindingId? : AnyRequest → Option String
  | createBinding q => some q.bindingId
  | deleteBinding q => some q.bindingId
  | getBinding q => some q.bindingId
  | pollBinding q => some q.bindingId
  | _ => none

theorem bindingId?_of_instance (q : AnyRequest) (h : q.operation.resource = .serviceInstance) :
    q.bindingId? = none := by
  cases q with
  | createBinding q => cases h
  | deleteBinding q => cases h
  | getBinding q => cases h
  | pollBinding q => cases h
  | _ => rfl

/-- The platform can wait for an operation in the background, where a request tells. -/
def asyncAccepted? : AnyRequest → Option Bool
  | createInstance q => some q.asyncAccepted
  | updateInstance q => some q.asyncAccepted
  | deleteInstance q => some q.asyncAccepted
  | createBinding q => some q.asyncAccepted
  | deleteBinding q => some q.asyncAccepted
  | _ => none

/-- The request says what the body says, to create or update, or the query, to delete or poll. -/
def Says (r : Http.Request) : AnyRequest → Prop
  | createInstance q => Wire.decodeFront Instance.CreateBody r.body =
      .ok ⟨q.serviceId, q.planId, q.organizationGuid, q.spaceGuid, q.context, q.parameters⟩
  | updateInstance q => Wire.decodeFront Instance.UpdateBody r.body =
      .ok ⟨q.serviceId, q.planId, q.previousValues, q.context, q.parameters⟩
  | createBinding q => Wire.decodeFront Binding.CreateBody r.body =
      .ok ⟨q.serviceId, q.planId, q.appGuid, q.bindResource, q.context, q.parameters⟩
  | deleteInstance q => Wire.decodeForm EntryQuery (Http.parseQuery r.query) =
      .ok ⟨q.serviceId, q.planId⟩
  | deleteBinding q => Wire.decodeForm EntryQuery (Http.parseQuery r.query) =
      .ok ⟨q.serviceId, q.planId⟩
  | pollInstance q => Wire.decodeForm PollQuery (Http.parseQuery r.query) =
      .ok ⟨q.serviceId, q.planId, q.operation⟩
  | pollBinding q => Wire.decodeForm PollQuery (Http.parseQuery r.query) =
      .ok ⟨q.serviceId, q.planId, q.operation⟩
  | getInstance _ | getBinding _ => True

/-- The request carries the catalog entries of its ids: both to create, those that it names to update,
a placeholder for a missing service to delete, what there is to poll. -/
def Finds (catalog : Catalog) : AnyRequest → Prop
  | createInstance q => catalog.service? q.serviceId = some q.service ∧
      q.service.plan? q.planId = some q.plan
  | updateInstance q => catalog.service? q.serviceId = some q.service ∧
      q.planId.map q.service.plan? = q.plan.map some
  | createBinding q => catalog.service? q.serviceId = some q.service ∧
      q.service.plan? q.planId = some q.plan
  | deleteInstance q => q.service = (catalog.service? q.serviceId).getD .placeholder ∧
      q.plan = (catalog.service? q.serviceId).bind (·.plan? q.planId)
  | deleteBinding q => q.service = (catalog.service? q.serviceId).getD .placeholder ∧
      q.plan = (catalog.service? q.serviceId).bind (·.plan? q.planId)
  | pollInstance q => q.service = q.serviceId.bind catalog.service? ∧
      q.plan = q.service.bind fun d => q.planId.bind d.plan?
  | pollBinding q => q.service = q.serviceId.bind catalog.service? ∧
      q.plan = q.service.bind fun d => q.planId.bind d.plan?
  | getInstance _ | getBinding _ => True

/-- **A request is as it was sent.** -/
structure AsSent (catalog : Catalog) (r : Http.Request) (q : AnyRequest) : Prop where
  /-- The path spells the ids, each in its own segment, and whether the operation polls. -/
  path : ∃ a : Http.Address, Http.segments r.path = some a.segments ∧ a.polls = q.operation.polls ∧
    Http.percentText? a.instanceId = some q.instanceId ∧
    a.bindingId.map Http.percentText? = q.bindingId?.map some ∧
    a.platform.map Http.percentText? = q.envelope.platformInstanceId.map some
  /-- The flag for operations in the background is that of the query. -/
  flag : ∀ accepted, q.asyncAccepted? = some accepted →
    Wire.decodeForm AcceptsIncomplete (Http.parseQuery r.query) = .ok ⟨accepted⟩
  requestIdentity : q.envelope.requestIdentity = r.headerText? Http.requestIdentityHeader
  apiInfoLocation : q.envelope.apiInfoLocation = r.headerText? Http.apiInfoLocationHeader
  originatingIdentity : (r.headerText? OriginatingIdentity.headerName).map
    (fun value => OriginatingIdentity.parse value.toList) = q.envelope.originatingIdentity.map .ok
  content : q.Says r
  entries : q.Finds catalog

end AnyRequest

/-! ## The parts of a call -/

namespace Http

/-- The parts that a call is made of: the ids of the path, and what body or query say. -/
inductive Makes (ps : Params) (asyncAccepted : Bool) (envelope : Envelope) (r : Request) :
    Call → Prop
  | createInstance {instanceId : String} {body : Instance.CreateBody}
      (hinstance : ps.get? .instanceId = some instanceId)
      (hbody : Wire.decodeFront Instance.CreateBody r.body = .ok body) :
      Makes ps asyncAccepted envelope r
        (.createInstance { instanceId, asyncAccepted, envelope, body })
  | updateInstance {instanceId : String} {body : Instance.UpdateBody}
      (hinstance : ps.get? .instanceId = some instanceId)
      (hbody : Wire.decodeFront Instance.UpdateBody r.body = .ok body) :
      Makes ps asyncAccepted envelope r
        (.updateInstance { instanceId, asyncAccepted, envelope, body })
  | deleteInstance {instanceId : String} {body : EntryQuery}
      (hinstance : ps.get? .instanceId = some instanceId)
      (hquery : Wire.decodeForm EntryQuery (parseQuery r.query) = .ok body) :
      Makes ps asyncAccepted envelope r
        (.deleteInstance { instanceId, asyncAccepted, envelope, body })
  | getInstance {instanceId : String} (hinstance : ps.get? .instanceId = some instanceId) :
      Makes ps asyncAccepted envelope r
        (.getInstance { instanceId, asyncAccepted, envelope, body := () })
  | pollInstance {instanceId : String} {body : PollQuery}
      (hinstance : ps.get? .instanceId = some instanceId)
      (hquery : Wire.decodeForm PollQuery (parseQuery r.query) = .ok body) :
      Makes ps asyncAccepted envelope r
        (.pollInstance { instanceId, asyncAccepted, envelope, body })
  | createBinding {instanceId bindingId : String} {body : Binding.CreateBody}
      (hinstance : ps.get? .instanceId = some instanceId)
      (hbinding : ps.get? .bindingId = some bindingId)
      (hbody : Wire.decodeFront Binding.CreateBody r.body = .ok body) :
      Makes ps asyncAccepted envelope r
        (.createBinding { instanceId, bindingId, asyncAccepted, envelope, body })
  | deleteBinding {instanceId bindingId : String} {body : EntryQuery}
      (hinstance : ps.get? .instanceId = some instanceId)
      (hbinding : ps.get? .bindingId = some bindingId)
      (hquery : Wire.decodeForm EntryQuery (parseQuery r.query) = .ok body) :
      Makes ps asyncAccepted envelope r
        (.deleteBinding { instanceId, bindingId, asyncAccepted, envelope, body })
  | getBinding {instanceId bindingId : String} (hinstance : ps.get? .instanceId = some instanceId)
      (hbinding : ps.get? .bindingId = some bindingId) :
      Makes ps asyncAccepted envelope r
        (.getBinding { instanceId, bindingId, asyncAccepted, envelope, body := () })
  | pollBinding {instanceId bindingId : String} {body : PollQuery}
      (hinstance : ps.get? .instanceId = some instanceId)
      (hbinding : ps.get? .bindingId = some bindingId)
      (hquery : Wire.decodeForm PollQuery (parseQuery r.query) = .ok body) :
      Makes ps asyncAccepted envelope r
        (.pollBinding { instanceId, bindingId, asyncAccepted, envelope, body })

variable {ps : Params} {accepted : Bool} {env : Envelope} {r : Request} {op : Operation}
  {raw : RawParams} {c : Call}

theorem Params.require_eq_ok {p : Param} {s : String} (h : ps.require p = .ok s) :
    ps.get? p = some s := by
  unfold Params.require at h
  split at h
  · exact (Except.ok.inj h) ▸ ‹_›
  · cases h

theorem mapError_eq_ok {x : Except ε α} {g : ε → β} {a : α} (h : x.mapError g = .ok a) :
    x = .ok a := by
  cases x with
  | error e => cases h
  | ok b => exact congrArg _ (Except.ok.inj h)

theorem decodeForm_of_queryAs [Wire.Message α] {a : α} (h : queryAs α r = .ok a) :
    Wire.decodeForm α (parseQuery r.query) = .ok a := mapError_eq_ok h

theorem decodeFront_of_bodyAs [Wire.Message α] {a : α} (h : bodyAs α r = .ok a) :
    Wire.decodeFront α r.body = .ok a := by
  unfold bodyAs at h
  split at h
  · cases h
  · split at h
    · cases h
    · exact mapError_eq_ok h

theorem inbound_eq_ok {body : β} {g : Inbound β → Call}
    (h : g <$> inbound ps accepted env body = .ok c) :
    ∃ instanceId, ps.get? .instanceId = some instanceId ∧
      c = g { instanceId, asyncAccepted := accepted, envelope := env, body } := by
  obtain ⟨i, hi, rfl⟩ := exceptMap_eq_ok.1 h
  obtain ⟨instanceId, hinstance, hpure⟩ := exceptBind_eq_ok.1 hi
  cases hpure
  exact ⟨instanceId, Params.require_eq_ok hinstance, rfl⟩

theorem bindingInbound_eq_ok {body : β} {g : BindingInbound β → Call}
    (h : g <$> bindingInbound ps accepted env body = .ok c) :
    ∃ instanceId bindingId, ps.get? .instanceId = some instanceId ∧
      ps.get? .bindingId = some bindingId ∧
      c = g { instanceId, bindingId, asyncAccepted := accepted, envelope := env, body } := by
  obtain ⟨i, hi, rfl⟩ := exceptMap_eq_ok.1 h
  obtain ⟨instanceId, hinstance, hrest⟩ := exceptBind_eq_ok.1 hi
  obtain ⟨bindingId, hbinding, hpure⟩ := exceptBind_eq_ok.1 hrest
  cases hpure
  exact ⟨instanceId, bindingId, Params.require_eq_ok hinstance, Params.require_eq_ok hbinding, rfl⟩

/-- **The parts of a call**: parameters of the path, flag, envelope, and what its operation reads. -/
theorem makes_of_call (h : call op raw r = .ok c) :
    ∃ ps accepted env, decodeParams raw = .ok ps ∧ asyncFlag op r = .ok accepted ∧
      envelope ps r = .ok env ∧ Makes ps accepted env r c ∧ c.operation = op := by
  obtain ⟨ps, hps, h₁⟩ := exceptBind_eq_ok.1 h
  obtain ⟨accepted, haccepted, h₂⟩ := exceptBind_eq_ok.1 h₁
  obtain ⟨env, henv, h₃⟩ := exceptBind_eq_ok.1 h₂
  refine ⟨ps, accepted, env, hps, haccepted, henv, ?_⟩
  -- body or query come behind the envelope, then the ids that the operation asks for
  cases op with
  | createInstance =>
    obtain ⟨body, hbody, h₄⟩ := exceptBind_eq_ok.1 h₃
    obtain ⟨instanceId, hinstance, rfl⟩ := inbound_eq_ok h₄
    exact ⟨.createInstance hinstance (decodeFront_of_bodyAs hbody), rfl⟩
  | updateInstance =>
    obtain ⟨body, hbody, h₄⟩ := exceptBind_eq_ok.1 h₃
    obtain ⟨instanceId, hinstance, rfl⟩ := inbound_eq_ok h₄
    exact ⟨.updateInstance hinstance (decodeFront_of_bodyAs hbody), rfl⟩
  | deleteInstance =>
    obtain ⟨query, hquery, h₄⟩ := exceptBind_eq_ok.1 h₃
    obtain ⟨instanceId, hinstance, rfl⟩ := inbound_eq_ok h₄
    exact ⟨.deleteInstance hinstance (decodeForm_of_queryAs hquery), rfl⟩
  | getInstance =>
    obtain ⟨instanceId, hinstance, rfl⟩ := inbound_eq_ok h₃
    exact ⟨.getInstance hinstance, rfl⟩
  | pollInstance =>
    obtain ⟨query, hquery, h₄⟩ := exceptBind_eq_ok.1 h₃
    obtain ⟨instanceId, hinstance, rfl⟩ := inbound_eq_ok h₄
    exact ⟨.pollInstance hinstance (decodeForm_of_queryAs hquery), rfl⟩
  | createBinding =>
    obtain ⟨body, hbody, h₄⟩ := exceptBind_eq_ok.1 h₃
    obtain ⟨instanceId, bindingId, hinstance, hbinding, rfl⟩ := bindingInbound_eq_ok h₄
    exact ⟨.createBinding hinstance hbinding (decodeFront_of_bodyAs hbody), rfl⟩
  | deleteBinding =>
    obtain ⟨query, hquery, h₄⟩ := exceptBind_eq_ok.1 h₃
    obtain ⟨instanceId, bindingId, hinstance, hbinding, rfl⟩ := bindingInbound_eq_ok h₄
    exact ⟨.deleteBinding hinstance hbinding (decodeForm_of_queryAs hquery), rfl⟩
  | getBinding =>
    obtain ⟨instanceId, bindingId, hinstance, hbinding, rfl⟩ := bindingInbound_eq_ok h₃
    exact ⟨.getBinding hinstance hbinding, rfl⟩
  | pollBinding =>
    obtain ⟨query, hquery, h₄⟩ := exceptBind_eq_ok.1 h₃
    obtain ⟨instanceId, bindingId, hinstance, hbinding, rfl⟩ := bindingInbound_eq_ok h₄
    exact ⟨.pollBinding hinstance hbinding (decodeForm_of_queryAs hquery), rfl⟩

end Http

/-! ## The entries of a request -/

namespace Catalog

variable {catalog : Catalog} {service : ServiceDefinition}

theorem requireService_eq_ok {serviceId : String}
    (h : catalog.requireService serviceId = .ok service) :
    catalog.service? serviceId = some service := by
  unfold requireService at h
  split at h
  · exact Except.ok.inj h ▸ ‹_›
  · cases h

theorem requirePlan_eq_ok {planId : String} {plan : Plan}
    (h : requirePlan service planId = .ok plan) : service.plan? planId = some plan := by
  unfold requirePlan at h
  split at h
  · exact Except.ok.inj h ▸ ‹_›
  · cases h

theorem require_eq_ok {serviceId planId : String} {plan : Plan}
    (h : catalog.require serviceId planId = .ok (service, plan)) :
    catalog.service? serviceId = some service ∧ service.plan? planId = some plan := by
  unfold require at h
  split at h
  · cases h
  · obtain ⟨_, hplan, ⟨⟩⟩ := exceptMap_eq_ok.1 h
    exact ⟨requireService_eq_ok ‹_›, requirePlan_eq_ok hplan⟩

theorem requireOptionalPlan_eq_ok {serviceId : String} {planId : Option String}
    {plan : Option Plan} (h : catalog.requireOptionalPlan serviceId planId = .ok (service, plan)) :
    catalog.service? serviceId = some service ∧ planId.map service.plan? = plan.map some := by
  unfold requireOptionalPlan at h
  split at h
  · cases h
  · cases planId with
    | none =>
      cases h
      exact ⟨requireService_eq_ok ‹_›, rfl⟩
    | some id =>
      obtain ⟨p, hplan, ⟨⟩⟩ := exceptMap_eq_ok.1 h
      exact ⟨requireService_eq_ok ‹_›, congrArg some (requirePlan_eq_ok hplan)⟩

theorem tolerate_entries (catalog : Catalog) (serviceId planId : String) :
    (catalog.tolerate serviceId planId).1 = (catalog.service? serviceId).getD .placeholder ∧
      (catalog.tolerate serviceId planId).2 = (catalog.service? serviceId).bind (·.plan? planId) := by
  unfold tolerate
  cases catalog.service? serviceId <;> exact ⟨rfl, rfl⟩

theorem bestEffort_entries (catalog : Catalog) (serviceId planId : Option String) :
    (catalog.bestEffort serviceId planId).1 = serviceId.bind catalog.service? ∧
      (catalog.bestEffort serviceId planId).2 =
        (catalog.bestEffort serviceId planId).1.bind fun d => planId.bind d.plan? := by
  unfold bestEffort
  cases serviceId.bind catalog.service? <;> exact ⟨rfl, rfl⟩

end Catalog

/-- What stays of the parts of a call when its ids are looked up. -/
structure Http.Keeps (ps : Params) (accepted : Bool) (env : Envelope) (r : Http.Request)
    (catalog : Catalog) (q : AnyRequest) : Prop where
  instanceId : ps.get? .instanceId = some q.instanceId
  bindingId : q.operation.resource = .serviceBinding → ps.get? .bindingId = q.bindingId?
  flag : q.asyncAccepted? = if q.operation.changes then some accepted else none
  envelope : q.envelope = env
  content : q.Says r
  entries : q.Finds catalog

/-- **A request that is resolved keeps the parts of its call** and carries the entries of its ids. -/
theorem Http.Makes.keeps {ps : Params} {accepted : Bool} {env : Envelope} {r : Http.Request}
    {c : Call} (h : Makes ps accepted env r c) {catalog : Catalog} {q : AnyRequest}
    (hq : c.resolve catalog = .ok q) : Keeps ps accepted env r catalog q := by
  -- what needs its entries is resolved only if they are there; the rest is resolved as it comes
  cases h with
  | createInstance hinstance hbody =>
    obtain ⟨⟨service, plan⟩, hentries, rfl⟩ := exceptMap_eq_ok.1 hq
    exact ⟨hinstance, nofun, rfl, rfl, hbody, Catalog.require_eq_ok hentries⟩
  | updateInstance hinstance hbody =>
    obtain ⟨⟨service, plan⟩, hentries, rfl⟩ := exceptMap_eq_ok.1 hq
    exact ⟨hinstance, nofun, rfl, rfl, hbody, Catalog.requireOptionalPlan_eq_ok hentries⟩
  | deleteInstance hinstance hquery =>
    cases hq
    exact ⟨hinstance, nofun, rfl, rfl, hquery, Catalog.tolerate_entries _ _ _⟩
  | getInstance hinstance =>
    cases hq
    exact ⟨hinstance, nofun, rfl, rfl, trivial, trivial⟩
  | pollInstance hinstance hquery =>
    cases hq
    exact ⟨hinstance, nofun, rfl, rfl, hquery, Catalog.bestEffort_entries _ _ _⟩
  | createBinding hinstance hbinding hbody =>
    obtain ⟨⟨service, plan⟩, hentries, rfl⟩ := exceptMap_eq_ok.1 hq
    exact ⟨hinstance, fun _ => hbinding, rfl, rfl, hbody, Catalog.require_eq_ok hentries⟩
  | deleteBinding hinstance hbinding hquery =>
    cases hq
    exact ⟨hinstance, fun _ => hbinding, rfl, rfl, hquery, Catalog.tolerate_entries _ _ _⟩
  | getBinding hinstance hbinding =>
    cases hq
    exact ⟨hinstance, fun _ => hbinding, rfl, rfl, trivial, trivial⟩
  | pollBinding hinstance hbinding hquery =>
    cases hq
    exact ⟨hinstance, fun _ => hbinding, rfl, rfl, hquery, Catalog.bestEffort_entries _ _ _⟩

/-! ## The law -/

namespace Http

variable {apiVersion : String} {b : Broker} {r : Request} {report : Report}

/-- What was reported behind a gate was reported by what stands behind it. -/
theorem report_of_guard {g : Gate} {inner : Reply} (h : (g.guard r inner).report = some report) :
    inner.report = some report := by
  unfold Gate.guard at h
  split at h
  · cases h
  · exact h

/-- **A report is that of a call** which the request makes on a route of its operation. -/
theorem call_of_report (h : (app apiVersion b r).report = some report) :
    ∃ route raw m op c, (brokerTable b.bindings.isSome).find? r.path = some (route, raw) ∧
      route.endpoint? m = some (.operation op) ∧ call op raw r = .ok c ∧
      b.perform? c = some report := by
  -- echo, gate and head leave the report alone, so it comes from the endpoint
  unfold app at h
  rw [echoIdentity_report] at h
  unfold Table.handle at h
  cases hroute : (brokerTable b.bindings.isSome).find? r.path with
  | none =>
    rw [hroute] at h
    cases report_of_guard h
  | some found =>
    obtain ⟨route, raw⟩ := found
    simp only [hroute] at h
    cases hendpoint : (Method.ofName? r.method).bind route.endpoint? with
    | none =>
      simp only [hendpoint] at h
      cases report_of_guard h
    | some endpoint =>
      obtain ⟨m, -, hm⟩ := Option.bind_eq_some_iff.1 hendpoint
      have hhead : ∀ reply : Reply, (reply.headOnly r).report = reply.report := by
        intro reply
        unfold Reply.headOnly
        split <;> rfl
      simp only [hendpoint, hhead] at h
      have hhandled := report_of_guard h
      cases endpoint with
      | catalog => cases hhandled
      | operation op =>
        unfold Endpoint.handle at hhandled
        cases hcall : call op raw r with
        | error rejection =>
          simp only [hcall] at hhandled
          cases hhandled
        | ok c =>
          simp only [hcall] at hhandled
          refine ⟨route, raw, m, op, c, rfl, hm, hcall, ?_⟩
          unfold perform at hhandled
          cases hreport : b.perform? c with
          | none => rw [hreport] at hhandled; cases hhandled
          | some report' => rw [hreport] at hhandled; exact hhandled

theorem envelope_eq_ok {ps : Params} {env : Envelope} (h : envelope ps r = .ok env) :
    env.platformInstanceId = ps.get? .platformId ∧
      env.requestIdentity = r.headerText? requestIdentityHeader ∧
      env.apiInfoLocation = r.headerText? apiInfoLocationHeader ∧
      (r.headerText? OriginatingIdentity.headerName).map
        (fun value => OriginatingIdentity.parse value.toList) =
          env.originatingIdentity.map .ok := by
  obtain ⟨identity, hidentity, rfl⟩ := exceptMap_eq_ok.1 h
  refine ⟨rfl, rfl, rfl, ?_⟩
  unfold originatingIdentity at hidentity
  cases hheader : r.headerText? OriginatingIdentity.headerName with
  | none =>
    rw [hheader] at hidentity
    cases hidentity
    rfl
  | some value =>
    simp only [hheader] at hidentity
    split at hidentity
    · cases hidentity
      exact congrArg some ‹_›
    · cases hidentity

/-- The call of a request, once resolved, is as it was sent. -/
theorem asSent_of_call {a : Address} {op : Operation} {c : Call} {catalog : Catalog} {q : AnyRequest}
    (hpath : segments r.path = some a.segments) (hpolls : a.polls = op.polls)
    (hbinding : a.bindingId.isSome = true ↔ op.resource = .serviceBinding)
    (hcall : call op a.params r = .ok c) (hq : c.resolve catalog = .ok q) : q.AsSent catalog r := by
  obtain ⟨ps, accepted, env, hps, hflag, henv, hmakes, hc⟩ := makes_of_call hcall
  have hop := (operation_of_resolve hq).trans hc
  have hkeeps := hmakes.keeps hq
  obtain ⟨hplatform, hrequest, hapi, hidentity⟩ := envelope_eq_ok henv
  have hparam := param?_of_decodeParams hps
  have hinstance : percentText? a.instanceId = some q.instanceId := by
    have hspelled := hparam .instanceId
    rw [hkeeps.instanceId] at hspelled
    exact Option.some.inj hspelled
  have hbindingId : a.bindingId.map percentText? = q.bindingId?.map some := by
    cases hresource : q.operation.resource with
    | serviceBinding =>
      rw [← hkeeps.bindingId hresource]
      exact hparam .bindingId
    | serviceInstance =>
      -- the route of an instance has no parameter for a binding
      have hnone : a.bindingId = none := by
        refine Option.not_isSome_iff_eq_none.1 fun hsome => ?_
        rw [hop, hbinding.1 hsome] at hresource
        cases hresource
      rw [hnone, q.bindingId?_of_instance hresource]
      rfl
  have hplatformId : a.platform.map percentText? = q.envelope.platformInstanceId.map some := by
    rw [hkeeps.envelope, hplatform]
    exact hparam .platformId
  refine {
    path := ⟨a, hpath, hop ▸ hpolls, hinstance, hbindingId, hplatformId⟩
    flag := ?_
    requestIdentity := hkeeps.envelope ▸ hrequest
    apiInfoLocation := hkeeps.envelope ▸ hapi
    originatingIdentity := hkeeps.envelope ▸ hidentity
    content := hkeeps.content
    entries := hkeeps.entries }
  -- only a request that tells has a flag, and then it was read off the query
  intro accepted' haccepted
  rw [hkeeps.flag] at haccepted
  split at haccepted
  · cases haccepted
    rw [asyncFlag_eq, ← hop, if_pos ‹_›] at hflag
    obtain ⟨flag, hquery, rfl⟩ := exceptMap_eq_ok.1 hflag
    exact decodeForm_of_queryAs hquery
  · cases haccepted

/-- **The envelope of a reported call** is made of the parameters of the path and of the headers, and is
that of every request that the call is resolved to or that the service was given. -/
theorem envelope_of_report (h : (app apiVersion b r).report = some report) :
    ∃ route raw ps env c, (brokerTable b.bindings.isSome).find? r.path = some (route, raw) ∧
      decodeParams raw = .ok ps ∧ envelope ps r = .ok env ∧ b.perform? c = some report ∧
      (∀ q, c.resolve b.catalog = .ok q → q.envelope = env) ∧
      ∀ q ∈ report.requests, q.envelope = env := by
  obtain ⟨route, raw, m, op, c, hroute, -, hcall, hperform⟩ := call_of_report h
  obtain ⟨ps, accepted, env, hps, -, henv, hmakes, -⟩ := makes_of_call hcall
  have hresolved : ∀ q, c.resolve b.catalog = .ok q → q.envelope = env :=
    fun q hq => (hmakes.keeps hq).envelope
  exact ⟨route, raw, ps, env, c, hroute, hps, henv, hperform, hresolved,
    fun q hq => hresolved q (Broker.resolve_of_mem_requests hperform hq).2⟩

end Http

namespace Sample

/-- A broker of the catalog that keeps bindings. -/
def binder : Broker := { broker with bindings := some .minimal }

/-- A request to delete a binding of a service that is no longer offered, under a platform. -/
def orphanRequest : Http.Request where
  method := "DELETE"
  target := "/cf/v2/service_instances/i%2F1/service_bindings/b?" ++
    "plan_id=small&accepts_incomplete=true&service_id=gone"

/-- The deletion that the request asks for. -/
def orphan : BindingInbound EntryQuery where
  instanceId := "i/1"
  bindingId := "b"
  asyncAccepted := true
  envelope := { platformInstanceId := some "cf" }
  body := ⟨"gone", "small"⟩

/-- The ids in the path of the request, as they are written. -/
def orphanParams : Http.RawParams :=
  [(.platformId, "cf".toList), (.instanceId, "i%2F1".toList), (.bindingId, "b".toList)]

theorem call_orphanRequest :
    Http.call .deleteBinding orphanParams orphanRequest = .ok (.deleteBinding orphan) := by
  have hparams : Http.decodeParams orphanParams =
      .ok [(.platformId, "cf"), (.instanceId, "i/1"), (.bindingId, "b")] := by
    have hplatform : Http.percentText? "cf".toList = some "cf" := by decide
    have hinstance : Http.percentText? "i%2F1".toList = some "i/1" := by decide
    have hbinding : Http.percentText? "b".toList = some "b" := by decide
    simp only [orphanParams, Http.decodeParams, hplatform, hinstance, hbinding]
    rfl
  have hentries : Http.parseQuery orphanRequest.query =
      [("plan_id", "small"), ("accepts_incomplete", "true"), ("service_id", "gone")] := by
    decide +kernel
  have hflag : Http.asyncFlag .deleteBinding orphanRequest = .ok true := by
    unfold Http.asyncFlag Http.acceptsIncomplete Http.queryAs
    rw [hentries]
    rfl
  have hquery : Http.queryAs EntryQuery orphanRequest = .ok ⟨"gone", "small"⟩ := by
    unfold Http.queryAs
    rw [hentries]
    rfl
  have hheader : ∀ name, orphanRequest.headerText? name = none := fun _ => rfl
  unfold Http.call Http.envelope Http.originatingIdentity
  simp only [hparams, hflag, hheader, hquery]
  rfl

theorem report_orphanRequest :
    (Http.app "*" binder orphanRequest).report = some (binder.deleteBinding .minimal orphan) := by
  have hroute : (Http.brokerTable binder.bindings.isSome).find? orphanRequest.path =
      some (⟨.param .platformId :: Http.bindingPattern,
        [(.get, .operation .getBinding), (.put, .operation .createBinding),
          (.delete, .operation .deleteBinding)]⟩, orphanParams) := by decide +kernel
  have hm : Http.Method.ofName? orphanRequest.method = some .delete := by decide
  rw [Http.app_of_call hroute hm rfl rfl call_orphanRequest rfl, Http.Reply.dressed_report]

end Sample
end Brokerage
