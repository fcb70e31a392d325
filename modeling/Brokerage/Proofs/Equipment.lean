import Brokerage.Proofs.Described
import Brokerage.Proofs.Rendering
import Brokerage.Proofs.RequestMetrics
import Brokerage.Proofs.UnderPlatform

/-!
# Handlers find what they need

Three failures of a server are no fault of a request: a route without a parameter that its handler asks
for, a handler of bindings where nothing keeps them, and a body that cannot be written. On the routes of
a broker none of them can happen, because of what is mounted where and of what messages hold.

* `Http.Equipped`: a handler has the parameters that it asks for, and a service for its bindings.
  `equipped_of_mounted`: **every handler that is mounted has them.**
* `Http.Rejection.BlamesServer`, `call_blames_request`: **what is wrong with a request on a route is never
  the route.**
* `Broker.outcome_of_perform?`: the answer to a call is that to an outcome.
* `Http.find?_of_binding`: without a service for bindings their paths fit no route.
* `Http.Course`: all that can become of a request.
* `misconfiguration_is_unreachable`: **every request takes one of these courses**, and none of them is one
  of the three failures.
-/

namespace Brokerage

/-! ## Outcomes -/

/-- **The answer to a call is that to an outcome** of its operation, be it of the service, of a hook or
of the catalog. -/
theorem Broker.outcome_of_perform? {b : Broker} {c : Call} {report : Report}
    (h : b.perform? c = some report) :
    ∃ outcome : Outcome c.operation.ResponseType,
      report.answer = (Answer.ofOutcome c.operation outcome).map c.operation.view := by
  by_cases hserves : b.Serves c.operation
  · cases hq : c.resolve b.catalog with
    | error f =>
      rw [perform?_of_resolve_error hserves hq] at h
      cases h
      exact ⟨.error f, rfl⟩
    | ok q =>
      rw [perform?_of_resolve_ok hq] at h
      rw [← operation_of_resolve hq]
      rcases failsOrSucceeds_of_carryOut? h with ⟨f, hf⟩ | ⟨response, -, hresponse⟩
      · exact ⟨.error f, hf⟩
      · exact ⟨.ok response, hresponse⟩
  · rw [perform?_of_not_serves hserves] at h
    cases h

namespace Http

variable {b : Broker} {r : Request} {op : Operation} {raw : RawParams} {m : Method}

/-! ## Handlers -/

/-- The handler of an operation has what it needs: every parameter of the path that it asks for, and a
service that keeps bindings if it is about them. -/
structure Equipped (b : Broker) (op : Operation) (raw : RawParams) : Prop where
  finds : ∀ ps, decodeParams raw = .ok ps → ∀ p ∈ op.asksFor, ∃ s, ps.require p = .ok s
  keeps : op.resource = .serviceBinding → b.bindings.isSome = true

/-- What is wrong is how the server was put together. -/
inductive Rejection.BlamesServer : Rejection → Prop
  | noParam (p : Param) : BlamesServer (.noParam p)
  | noBindings : BlamesServer .noBindings

/-- Such a rejection is a failure of the server, which no defect of a request is. -/
theorem Rejection.BlamesServer.response_ne {e : Rejection} (h : e.BlamesServer) (d : Defect) :
    e.response ≠ d.response := by
  intro heq
  have hserver : e.response.status = 500 := by cases h <;> rfl
  have hdefect : d.response.status ≠ 500 := by
    rw [d.status_response]
    cases d <;> simp [Defect.status]
  exact hdefect (heq ▸ hserver)

section Judged

variable {α : Type} {P : α → Prop} {ds : List Defect}

/-- What was read is as it was judged. -/
theorem Judged.of_ok {x : Except Rejection α} {a : α} (h : Judged P ds x) (hx : x = .ok a) : P a := by
  cases h with
  | refused _ => cases hx
  | passed ha =>
    cases hx
    exact ha

/-- What was refused is refused for a defect. -/
theorem Judged.of_error {x : Except Rejection α} {e : Rejection} (h : Judged P ds x)
    (hx : x = .error e) : ∃ d : Defect, e.response = d.response := by
  cases h with
  | refused hd =>
    cases hx
    exact ⟨_, hd⟩
  | passed _ => cases hx

end Judged

section Mounted

variable (hmounted : mounted? b.bindings.isSome r = some (raw, m, .operation op))

include hmounted

/-- What is mounted suits its route: the path has the parameters that are asked for. -/
theorem suits_of_mounted : (∀ p ∈ op.asksFor, p ∈ raw.map (·.1)) ∧
    (op.resource = .serviceBinding → b.bindings.isSome = true) ∧ (op.changes = true ↔ m ≠ .get) := by
  obtain ⟨route, hroute, -, hop⟩ := mounted?_eq_some hmounted
  obtain ⟨hmem, hnames⟩ := params_of_find? hroute
  rw [hnames]
  exact brokerTable_suits hmem hop

/-- **Every handler that is mounted is equipped.** -/
theorem equipped_of_mounted : Equipped b op raw := by
  obtain ⟨hasks, hkeeps, -⟩ := suits_of_mounted hmounted
  refine ⟨fun ps hps p hp => ?_, hkeeps⟩
  apply Params.require_of_mem
  rw [(judged_decodeParams raw).of_ok hps]
  exact hasks p hp

/-- **What is wrong with a request is never the route** that it is on. -/
theorem call_blames_request {e : Rejection} (hcall : call op raw r = .error e) :
    ¬e.BlamesServer := by
  obtain ⟨hasks, -, hchanges⟩ := suits_of_mounted hmounted
  obtain ⟨d, hd⟩ := (judged_call hchanges hasks r).of_error hcall
  exact fun hblames => hblames.response_ne d hd

/-- A call that is made is one of the operation mounted there. -/
theorem operation_of_call {c : Call} (hcall : call op raw r = .ok c) : c.operation = op := by
  obtain ⟨hasks, -, hchanges⟩ := suits_of_mounted hmounted
  exact (judged_call hchanges hasks r).of_ok hcall

end Mounted

/-! ## Paths of bindings -/

/-- The path is one of a binding, with or without a platform in front. -/
def FitsBinding (path : List Char) : Prop :=
  ∃ route ∈ bindingRoutes ++ bindingRoutes.map (·.underPlatform), (route.match? path).isSome = true

/-- Without a service for bindings no route overlaps theirs. -/
theorem brokerTable_without_bindings : ∀ route ∈ brokerTable false,
    ∀ route' ∈ bindingRoutes ++ bindingRoutes.map (·.underPlatform),
      overlap route.pattern route'.pattern = false := by
  decide +kernel

/-- **Without a service for bindings the path of a binding fits no route.** -/
theorem find?_of_binding {path : List Char} (h : FitsBinding path) :
    (brokerTable false).find? path = none := by
  obtain ⟨route', hroute', hfits⟩ := h
  obtain ⟨raw', hmatch'⟩ := Option.isSome_iff_exists.1 hfits
  unfold Table.find?
  rw [List.findSome?_eq_none_iff]
  intro route hroute
  cases hmatch : route.match? path with
  | none => rfl
  | some raw =>
    have hoverlap := Route.overlap_of_match? hmatch hmatch'
    rw [brokerTable_without_bindings route hroute route' hroute'] at hoverlap
    cases hoverlap

/-! ## Courses -/

/-- **What a handler comes to**: the request is refused for something that is wrong with it, or its call
is performed, and the outcome has a body that can be written. -/
inductive Handles (b : Broker) (op : Operation) (raw : RawParams) (r : Request) : Reply → Prop
  | refused {e : Rejection} (hcall : call op raw r = .error e) (hblames : ¬e.BlamesServer) :
    Handles b op raw r ⟨e.response, none⟩
  | answered {c : Call} {report : Report} {outcome : Outcome op.ResponseType} {body : Json}
    (hcall : call op raw r = .ok c) (hreport : b.perform? c = some report)
    (hanswer : report.answer = (Answer.ofOutcome op outcome).map op.view)
    (hbody : (Answer.ofOutcome op outcome).body.render = .ok body) :
    Handles b op raw r ⟨.json report.answer.status body, some report⟩

/-- **All that can become of a request** on the routes of a broker. -/
inductive Course (b : Broker) (r : Request) : Reply → Prop
  /-- The path fits no route. -/
  | unrouted (h : (brokerTable b.bindings.isSome).find? r.path = none) : Course b r ⟨notFound, none⟩
  /-- The route is not mounted for the method. -/
  | unmounted {route : Route} {raw : RawParams}
    (hroute : (brokerTable b.bindings.isSome).find? r.path = some (route, raw))
    (hnone : (Method.ofName? r.method).bind route.endpoint? = none) :
    Course b r ⟨notAllowed.withAllowed route.allowed, none⟩
  | catalog {raw : RawParams} {m : Method}
    (h : mounted? b.bindings.isSome r = some (raw, m, .catalog)) :
    Course b r (Reply.headOnly ⟨.json 200 (Wire.encode b.catalog), none⟩ r)
  | handled {raw : RawParams} {m : Method} {op : Operation} {reply : Reply}
    (h : mounted? b.bindings.isSome r = some (raw, m, .operation op))
    (hequipped : Equipped b op raw) (hreply : Handles b op raw r reply) :
    Course b r (reply.headOnly r)

/-- A handler that is mounted comes to one of the two. -/
theorem handles_of_mounted (hmounted : mounted? b.bindings.isSome r = some (raw, m, .operation op)) :
    Handles b op raw r ((Endpoint.operation op).handle b raw r) := by
  unfold Endpoint.handle
  cases hcall : call op raw r with
  | error e =>
    simp only [hcall]
    exact .refused hcall (call_blames_request hmounted hcall)
  | ok c =>
    have hop := operation_of_call hmounted hcall
    subst hop
    obtain ⟨report, hreport, -⟩ :=
      Broker.perform?_of_serves (b := b) (c := c) (equipped_of_mounted hmounted).keeps
    obtain ⟨outcome, hanswer⟩ := Broker.outcome_of_perform? hreport
    have hbody := (Answer.ofOutcome c.operation outcome).body.render_eq
    rw [← Answer.toJson_body_view, ← hanswer] at hbody
    simp only [hcall, perform, hreport]
    exact .answered hcall hreport hanswer hbody

/-- **Every request takes one of the courses.** -/
theorem course_serve (b : Broker) (r : Request) : Course b r (serve b r) := by
  unfold serve Table.handle
  cases hroute : (brokerTable b.bindings.isSome).find? r.path with
  | none => exact .unrouted hroute
  | some found =>
    obtain ⟨route, raw⟩ := found
    cases hendpoint : (Method.ofName? r.method).bind route.endpoint? with
    | none =>
      simp only [hendpoint]
      exact .unmounted hroute hendpoint
    | some e =>
      obtain ⟨m, hm, he⟩ := Option.bind_eq_some_iff.1 hendpoint
      have hmounted : mounted? b.bindings.isSome r = some (raw, m, e) := by
        simp only [mounted?, hroute, hm, he, Option.bind_some, Option.map_some]
      simp only [hendpoint]
      cases e with
      | catalog => exact .catalog hmounted
      | operation op =>
        exact .handled hmounted (equipped_of_mounted hmounted) (handles_of_mounted hmounted)

/-- **No request meets a server that was put together wrongly.** Every request takes one of the courses,
and every handler that it can reach is equipped. Without a service for bindings all their paths are
unknown. The body of every outcome can be written, and what is written is the body of its answer. -/
theorem misconfiguration_is_unreachable (b : Broker) (r : Request) :
    Course b r (serve b r) ∧
    (∀ raw m op, mounted? b.bindings.isSome r = some (raw, m, .operation op) →
      Equipped b op raw ∧ ∀ e, call op raw r = .error e → ¬e.BlamesServer) ∧
    (b.bindings = none → FitsBinding r.path → serve b r = ⟨notFound, none⟩) ∧
    ∀ (ρ : Type) [Brokerage.Response ρ] (op : Operation) (outcome : Outcome ρ),
      (Answer.ofOutcome op outcome).body.render = .ok (Answer.ofOutcome op outcome).body.toJson ∧
        outcomeResponse op outcome = answerResponse (.ofOutcome op outcome) := by
  refine ⟨course_serve b r, fun raw m op hmounted => ?_, fun hbindings hpath => ?_,
    fun ρ _ op outcome => ⟨Body.render_eq _, outcomeResponse_eq op outcome⟩⟩
  · exact ⟨equipped_of_mounted hmounted, fun e hcall => call_blames_request hmounted hcall⟩
  · have hroute := find?_of_binding hpath
    unfold serve Table.handle
    rw [hbindings, Option.isSome_none, hroute]
    rfl

end Http

namespace Sample

/-- A request for a binding under a platform. -/
def unkeptBinding : Http.Request where
  method := "PUT"
  target := "/p/v2/service_instances/i/service_bindings/b"

/-- A broker that keeps no bindings does not know it. -/
theorem unkeptBinding_is_unknown : broker.bindings = none ∧ Http.FitsBinding unkeptBinding.path ∧
    Http.serve broker unkeptBinding = ⟨Http.notFound, none⟩ := by
  have hpath : Http.FitsBinding unkeptBinding.path := by
    unfold Http.FitsBinding
    decide
  have hunknown := (Http.misconfiguration_is_unreachable broker unkeptBinding).2.2.1 rfl hpath
  exact ⟨rfl, hpath, hunknown⟩

end Sample

end Brokerage
