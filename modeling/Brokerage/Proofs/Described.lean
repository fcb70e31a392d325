import Brokerage.Proofs.Answer
import Brokerage.Proofs.ErrorBody
import Brokerage.Proofs.Report
import Brokerage.Proofs.Transport

/-!
# Answers that describe a problem

A request on a route is turned away for a defect, or makes a call that fails or succeeds. What is no
success comes with an object that describes the problem, whichever part of the server it is from. One
answer does not: that to a path that is no text.

* `Broker.says?`: what the service answers a request with.
* `Broker.Succeeds`, `failsOrSucceeds_of_carryOut?`: an answer renders a success of the service, or is
  that to a failure.
* `Http.Content.Describes`, `Http.Defect.describes`: a defect is described, unless it is in the path.
* `described_unless_success`: **what is no success is described**, but for a path that is no text.
-/

namespace Brokerage

variable {α ρ : Type}

/-! ## The answer to a call -/

/-- What the service answered, if it was asked. -/
def Consultation.said? : Consultation α ρ → Option (Outcome ρ)
  | .asked _ outcome => some outcome
  | .notOffered _ => none

/-- A success is what the service said. -/
theorem Consultation.said?_of_outcome {business : Consultation α ρ} {response : Option ρ}
    (h : business.outcome = .ok response) : business.said? = some (.ok response) := by
  cases business with
  | asked request outcome => exact congrArg some h
  | notOffered f => cases h

theorem said?_consultIfOffered (name : String) (service : Option (α → Outcome ρ)) (request : α) :
    (consultIfOffered name service request).said? = service.map fun s => s request := by
  cases service <;> rfl

/-- **A run succeeds only if the service does**, and with its response. -/
theorem Pipeline.outcome_of_run [Inhabited ρ] {flows : FlowRegistry} {business : Consultation α ρ}
    {response : Option ρ} (h : (run flows business).outcome = .ok response) :
    business.outcome = .ok response := by
  have hverdict := (run_eq flows business).2
  rw [h] at hverdict
  obtain ⟨-, -, houtcome⟩ := verdict_ok hverdict.symm
  exact houtcome

namespace Broker

/-- **What the service answers a request with**, if it is asked. -/
def says? (b : Broker) : (q : AnyRequest) → Option (Outcome q.operation.ResponseType)
  | .createInstance q => some (b.instances.create q)
  | .updateInstance q => some (b.instances.update q)
  | .deleteInstance q => some (b.instances.delete q)
  | .getInstance q => b.instances.get.map fun get => get q
  | .pollInstance q => b.instances.poll.map fun poll => poll q
  | .createBinding q => b.bindings.map fun s => s.create q
  | .deleteBinding q => b.bindings.map fun s => s.delete q
  | .getBinding q => b.bindings.bind fun s => s.get.map fun get => get q
  | .pollBinding q => b.bindings.bind fun s => s.poll.map fun poll => poll q

/-- The answer renders a success of the service: what it has to say to this very request. -/
def Succeeds (b : Broker) (q : AnyRequest) (a : Answer AnyResponse) : Prop :=
  ∃ response, b.says? q = some (.ok response) ∧
    a = (Answer.ofOutcome q.operation (.ok response)).map q.operation.view

/-- The answer is that to a failure, or renders a success of the service. -/
def FailsOrSucceeds (b : Broker) (q : AnyRequest) (a : Answer AnyResponse) : Prop :=
  (∃ f, a = .ofFailure q.operation f) ∨ b.Succeeds q a

variable {b : Broker} {q : AnyRequest}

section

variable {business : Consultation α q.operation.ResponseType} (h : business.said? = b.says? q)
  (wrap : α → AnyRequest)

include h

theorem failsOrSucceeds_ofRun {run : Run α q.operation.ResponseType}
    (hrun : ∀ response, run.outcome = .ok response → business.outcome = .ok response) :
    b.FailsOrSucceeds q (Report.ofRun q.operation wrap q.operation.view run).answer := by
  unfold Report.ofRun
  cases hout : run.outcome with
  | error f => exact .inl ⟨f, rfl⟩
  | ok response =>
    have hsaid := Consultation.said?_of_outcome (hrun response hout)
    exact .inr ⟨response, h ▸ hsaid, rfl⟩

theorem failsOrSucceeds_run (flows : FlowRegistry) :
    b.FailsOrSucceeds q
      (Report.ofRun q.operation wrap q.operation.view (Pipeline.run flows business)).answer :=
  failsOrSucceeds_ofRun h wrap fun _ => Pipeline.outcome_of_run

theorem failsOrSucceeds_plain :
    b.FailsOrSucceeds q
      (Report.ofRun q.operation wrap q.operation.view (Pipeline.plain business)).answer :=
  failsOrSucceeds_ofRun h wrap fun _ => id

end

/-- **The answer to a request** is that to a failure, or renders a success of the service. -/
theorem failsOrSucceeds_of_carryOut? {report : Report} (h : b.carryOut? q = some report) :
    b.FailsOrSucceeds q report.answer := by
  -- what is about bindings is carried out only where a service keeps them, and that one has said it
  cases q with
  | createInstance q =>
    cases h
    have hsaid : (consult b.instances.create q).said? = b.says? (.createInstance q) := rfl
    exact failsOrSucceeds_run hsaid _ _
  | updateInstance q =>
    cases h
    have hsaid : (consult b.instances.update q).said? = b.says? (.updateInstance q) := rfl
    exact failsOrSucceeds_run hsaid _ _
  | deleteInstance q =>
    cases h
    have hsaid : (consult b.instances.delete q).said? = b.says? (.deleteInstance q) := rfl
    exact failsOrSucceeds_run hsaid _ _
  | getInstance q =>
    cases h
    exact failsOrSucceeds_plain (said?_consultIfOffered _ _ q) _
  | pollInstance q =>
    cases h
    exact failsOrSucceeds_run (said?_consultIfOffered _ _ q) _ _
  | createBinding q =>
    obtain ⟨s, hs, rfl⟩ := Option.map_eq_some_iff.1 h
    have hsaid : (consult s.create q).said? = b.says? (.createBinding q) := by
      unfold says?
      rw [hs]
      rfl
    exact failsOrSucceeds_run hsaid _ _
  | deleteBinding q =>
    obtain ⟨s, hs, rfl⟩ := Option.map_eq_some_iff.1 h
    have hsaid : (consult s.delete q).said? = b.says? (.deleteBinding q) := by
      unfold says?
      rw [hs]
      rfl
    exact failsOrSucceeds_run hsaid _ _
  | getBinding q =>
    obtain ⟨s, hs, rfl⟩ := Option.map_eq_some_iff.1 h
    have hsaid : (consultIfOffered "get service instance binding" s.get q).said? =
        b.says? (.getBinding q) := by
      unfold says?
      rw [hs]
      exact said?_consultIfOffered _ _ q
    exact failsOrSucceeds_plain hsaid _
  | pollBinding q =>
    obtain ⟨s, hs, rfl⟩ := Option.map_eq_some_iff.1 h
    have hsaid : (consultIfOffered "last binding operation" s.poll q).said? =
        b.says? (.pollBinding q) := by
      unfold says?
      rw [hs]
      exact said?_consultIfOffered _ _ q
    exact failsOrSucceeds_run hsaid _ _

end Broker

/-! ## Descriptions -/

namespace Http

/-- The content is an object that describes a problem. -/
def Content.Describes (c : Content) : Prop :=
  ∃ j description, c = .json j ∧ j.Describes description

theorem Problem.describes (p : Problem) : p.response.content.Describes :=
  ⟨_, _, rfl, p.body.describes_encode⟩

theorem describes_ofFailure (op : Operation) (f : Failure) :
    (answerResponse (.ofFailure op f : Answer AnyResponse)).content.Describes :=
  ⟨_, _, rfl, (ErrorBody.ofFailure f).describes_encode⟩

/-- **A defect is described**, unless it is in the path. -/
theorem Defect.describes {d : Defect} (h : ∀ p, d ≠ .path p) : d.response.content.Describes := by
  cases d with
  | path p => exact absurd rfl (h p)
  | version expected provided => exact (Problem.unsupportedVersion expected provided).describes
  | flag issue => exact (Problem.unprocessable (queryMessage issue)).describes
  | identity fault => exact (Problem.unprocessable fault.message).describes
  | query issue => exact (Problem.unprocessable (queryMessage issue)).describes
  | noJson => exact Problem.describes _
  | tooLong => exact Problem.describes _
  | body fault => exact (Problem.unprocessable (bodyMessage fault)).describes

/-! ## Replies -/

/-- The response renders a success of the service: the request makes a call that is resolved, and status
and content are those of what the service has to say to it. -/
def RendersSuccess (b : Broker) (op : Operation) (raw : RawParams) (r : Request) (x : Response) :
    Prop :=
  ∃ c q a, call op raw r = .ok c ∧ c.resolve b.catalog = .ok q ∧ q.operation = op ∧ b.Succeeds q a ∧
    x.status = a.status ∧ x.content = .json a.body.toJson

/-- **A call is answered** with a success of the service, or with a description. -/
theorem renders_or_describes {b : Broker} {op : Operation} {raw : RawParams} {r : Request} {c : Call}
    (hcall : call op raw r = .ok c) (hop : c.operation = op) (hserves : b.Serves op) :
    RendersSuccess b op raw r (perform b c).response ∨ (perform b c).response.content.Describes := by
  subst hop
  cases hq : c.resolve b.catalog with
  | error f =>
    right
    unfold perform
    rw [Broker.perform?_of_resolve_error hserves hq]
    exact describes_ofFailure _ f
  | ok q =>
    have hqop := operation_of_resolve hq
    obtain ⟨report, hreport⟩ := Broker.carryOut?_of_serves (hqop ▸ hserves)
    unfold perform
    rw [Broker.perform?_of_resolve_ok hq, hreport]
    rcases Broker.failsOrSucceeds_of_carryOut? hreport with ⟨f, hf⟩ | hsuccess
    · right
      simp only [hf]
      exact describes_ofFailure _ f
    · left
      exact ⟨c, q, report.answer, hcall, hq, hqop, hsuccess, rfl, rfl⟩

theorem Request.shown_of_ne {r : Request} (h : r.method ≠ "HEAD") (content : Content) :
    r.shown content = content := if_neg h

/-- **What is no success is described**, for a request on a mounted route and method that asks for more
than a head. If the first thing wrong with it is a path that is no text, the answer is a plain text and
nothing else happens. Otherwise the response renders what the service has to say, or is an object that
describes the problem. -/
theorem described_unless_success (apiVersion : String) (b : Broker) (r : Request) {route : Route}
    {raw : RawParams} {m : Method} {op : Operation}
    (hroute : (brokerTable b.bindings.isSome).find? r.path = some (route, raw))
    (hm : Method.ofName? r.method = some m) (hop : route.endpoint? m = some (.operation op))
    (hhead : r.method ≠ "HEAD") :
    match defects apiVersion m op raw r with
    | .path p :: _ =>
      (app apiVersion b r).response.status = 400 ∧
        (app apiVersion b r).response.content =
          .text ("Invalid URL: Invalid UTF-8 in " ++ Wire.ticked p.name) ∧
        (app apiVersion b r).report = none
    | _ =>
      RendersSuccess b op raw r (app apiVersion b r).response ∨
        (app apiVersion b r).response.content.Describes := by
  obtain ⟨hmem, hkeys⟩ := params_of_find? hroute
  obtain ⟨hasks, hserves, hchanges⟩ := brokerTable_suits hmem hop
  rw [← hkeys] at hasks
  rw [app_of_mounted hroute hm hop]
  unfold RendersSuccess
  simp only [Reply.dressed_status, Reply.dressed_content, Reply.dressed_report,
    Request.shown_of_ne hhead]
  cases hds : defects apiVersion m op raw r with
  | cons d ds =>
    rw [guard_of_defect hchanges hasks hds]
    cases d with
    | path p => exact ⟨rfl, rfl, rfl⟩
    | _ => exact .inr (Defect.describes nofun)
  | nil =>
    obtain ⟨c, hcall, hcop, hguard⟩ := guard_of_no_defect (b := b) hchanges hasks hds
    rw [hguard]
    exact renders_or_describes hcall hcop hserves

/-- Of all that is wrong with the request, the version is described. -/
theorem brokenRequest_is_described :
    (∃ route, (brokerTable Sample.broker.bindings.isSome).find? brokenRequest.path =
        some (route, [(.instanceId, ['%', 'f', 'f'])]) ∧
      route.endpoint? .put = some (.operation .createInstance)) ∧
      Method.ofName? brokenRequest.method = some .put ∧ brokenRequest.method ≠ "HEAD" ∧
      (app "2.14" Sample.broker brokenRequest).response.content.Describes := by
  have hmounted : ∃ route, (brokerTable Sample.broker.bindings.isSome).find? brokenRequest.path =
        some (route, [(.instanceId, ['%', 'f', 'f'])]) ∧
      route.endpoint? .put = some (.operation .createInstance) := ⟨_, rfl, rfl⟩
  obtain ⟨route, hroute, hop⟩ := hmounted
  have hm : Method.ofName? brokenRequest.method = some .put := by decide
  have hhead : brokenRequest.method ≠ "HEAD" := by decide
  have hanswer := described_unless_success "2.14" Sample.broker brokenRequest hroute hm hop hhead
  -- the request makes no call, so nothing can be rendered
  have hcall : call .createInstance [(.instanceId, ['%', 'f', 'f'])] brokenRequest =
      .error (.path .instanceId) := rfl
  refine ⟨⟨route, hroute, hop⟩, hm, hhead, hanswer.resolve_left ?_⟩
  rintro ⟨c, -, -, hc, -⟩
  rw [hcall] at hc
  cases hc

end Http

namespace Sample

/-- A request for an instance whose id is no text. -/
def unreadableId : Http.Request where
  method := "GET"
  target := "/v2/service_instances/%FF"

/-- **A path that is no text is not described**: the answer is a text, and no success either. -/
theorem unreadableId_is_not_described :
    (∃ route, (Http.brokerTable broker.bindings.isSome).find? unreadableId.path =
        some (route, [(.instanceId, ['%', 'F', 'F'])]) ∧
      route.endpoint? .get = some (.operation .getInstance)) ∧
      Http.Method.ofName? unreadableId.method = some .get ∧ unreadableId.method ≠ "HEAD" ∧
      ¬Http.RendersSuccess broker .getInstance [(.instanceId, ['%', 'F', 'F'])] unreadableId
        (Http.app "*" broker unreadableId).response ∧
      ¬(Http.app "*" broker unreadableId).response.content.Describes := by
  have hcontent : (Http.app "*" broker unreadableId).response.content =
      .text ("Invalid URL: Invalid UTF-8 in " ++ Wire.ticked Http.Param.instanceId.name) := rfl
  refine ⟨⟨_, rfl, rfl⟩, by decide, by decide, ?_, ?_⟩
  · rintro ⟨-, -, a, -, -, -, -, -, hjson⟩
    rw [hcontent] at hjson
    cases hjson
  · rintro ⟨j, description, hjson, -⟩
    rw [hcontent] at hjson
    cases hjson

end Sample

end Brokerage
