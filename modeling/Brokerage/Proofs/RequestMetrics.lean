import Brokerage.Proofs.Counting
import Brokerage.Proofs.Transport

/-!
# The metrics of requests

A call that is made is counted once, with the status of its answer, whatever becomes of it: a missing
catalog entry, a hook, the service and success all end in the same place. Over HTTP a request counts
for the operation that it reaches, and one that reaches none counts for nothing.

* `Broker.isSome_perform?`, `carried_of_perform?`: what is made is what is served, and its report carries
  it once, for its own operation.
* `Http.mounted?`, `Http.reached?`: what stands at the path and method of a request, and the operation
  that it reaches: one that is mounted there, if nothing is wrong with the request.
* `Http.report_of_reached`, `report_of_unreached`: **a request is reported if it reaches an operation,
  and only then**, with the status of its response.
* `Http.afterAll`, `Http.afterAll_eq`: requests in turn.
* `requests_are_counted_once`: **the metrics of requests tell the steps of a run.**
-/

namespace Brokerage

open Metrics (Series Samples)

/-! ## Calls -/

namespace Broker

variable {b : Broker} {c : Call} {report : Report}

/-- A call is made if its operation is served. -/
theorem isSome_perform? (b : Broker) (c : Call) :
    (b.perform? c).isSome = decide (b.Serves c.operation) := by
  by_cases hb : b.Serves c.operation
  · obtain ⟨report, hreport, -⟩ := perform?_of_serves hb
    rw [hreport, decide_eq_true hb, Option.isSome_some]
  · rw [perform?_of_not_serves hb, decide_eq_false hb, Option.isSome_none]

/-- A request that is carried out is counted once, for its operation and with the status of its
answer. -/
theorem carried_of_carryOut? {q : AnyRequest} (h : b.carryOut? q = some report) :
    report.counted = [(q.operation, report.answer.status)] := by
  cases carriesOut_of_carryOut? h with
  | hooked => rfl
  | plain => rfl

/-- **So is a call**, also one that lacks a catalog entry. -/
theorem carried_of_perform? (h : b.perform? c = some report) :
    report.counted = [(c.operation, report.answer.status)] := by
  by_cases hb : b.Serves c.operation
  · cases hq : c.resolve b.catalog with
    | error f =>
      rw [perform?_of_resolve_error hb hq] at h
      cases h
      rfl
    | ok q =>
      rw [perform?_of_resolve_ok hq] at h
      rw [← operation_of_resolve hq]
      exact carried_of_carryOut? h
  · rw [perform?_of_not_serves hb] at h
    cases h

end Broker

/-- What reports in turn carry, where each comes from a step that is counted at most once. -/
theorem Report.counted_filterMap {γ : Type} {f : γ → Option Report} {g : γ → Option (Operation × Nat)}
    (h : ∀ x, (f x).toList.flatMap Report.counted = (g x).toList) (xs : List γ) :
    (xs.filterMap f).flatMap Report.counted = xs.filterMap g := by
  rw [List.filterMap_eq_flatMap_toList, List.filterMap_eq_flatMap_toList, List.flatMap_assoc]
  exact List.flatMap_congr fun x _ => h x

namespace Ledger

variable (l : Ledger) (rs : List Report) (op : Operation) (status : Nat)

/-- **Requests are counted by their status**, as reports carry them. -/
theorem requests_recordAll :
    (l.recordAll rs).metrics.count (.requests op status) =
      l.metrics.count (.requests op status) + (rs.flatMap Report.counted).count (op, status) := by
  rw [count_recordAll, List.count_flatMap]
  rfl

/-- **Durations are counted**, one for each request that reports carry. -/
theorem durations_recordAll :
    (l.recordAll rs).metrics.count (.durations op) =
      l.metrics.count (.durations op) + (rs.flatMap Report.counted).countP fun q => q.1 = op := by
  rw [count_recordAll, List.countP_flatMap]
  rfl

end Ledger

namespace Session

variable (s : Session) (cs : List Call) (op : Operation) (status : Nat)

/-- What is counted of calls in turn: the operation of each that is made, and the status of its
answer. -/
theorem counted_calls (b : Broker) (cs : List Call) :
    (cs.filterMap b.perform?).flatMap Report.counted =
      cs.filterMap fun c => (b.perform? c).map fun report => (c.operation, report.answer.status) := by
  refine Report.counted_filterMap (fun c => ?_) cs
  cases hc : b.perform? c with
  | none => rfl
  | some report => exact (List.append_nil _).trans (Broker.carried_of_perform? hc)

/-- The answers of a session, counted by operation and status. -/
theorem requests_afterAll :
    (s.afterAll cs).ledger.metrics.count (.requests op status) =
      s.ledger.metrics.count (.requests op status) +
        (cs.zip (s.reports cs)).countP fun (c, report) =>
          c.operation = op && report.any (·.answer.status = status) := by
  rw [afterAll_eq, Ledger.requests_recordAll, counted_calls, List.count_filterMap, zip_reports,
    List.countP_map]
  congr 1
  refine List.countP_congr fun c _ => ?_
  cases hc : s.broker.perform? c with
  | none => simp [hc]
  | some report => simp [hc]

/-- The durations of a session: one for each call of the operation, if that is served. -/
theorem durations_afterAll :
    (s.afterAll cs).ledger.metrics.count (.durations op) =
      s.ledger.metrics.count (.durations op) +
        cs.countP fun c => c.operation = op && s.broker.Serves c.operation := by
  rw [afterAll_eq, Ledger.durations_recordAll, counted_calls, List.countP_filterMap]
  congr 1
  refine List.countP_congr fun c _ => ?_
  rw [← Broker.isSome_perform?]
  cases hc : s.broker.perform? c with
  | none => simp
  | some report => simp

end Session

/-! ## Requests of the protocol -/

namespace Http

/-- What is mounted on the path and method of a request, with the parameters of the path. -/
def mounted? (bindings : Bool) (r : Request) : Option (RawParams × Method × Endpoint) :=
  ((brokerTable bindings).find? r.path).bind fun (route, raw) =>
    (Method.ofName? r.method).bind fun m => (route.endpoint? m).map fun e => (raw, m, e)

/-- The operation that a request reaches: one is mounted there, and nothing is wrong with the
request. -/
def reached? (apiVersion : String) (b : Broker) (r : Request) : Option Operation :=
  match mounted? b.bindings.isSome r with
  | some (raw, m, .operation op) => if (defects apiVersion m op raw r).isEmpty then some op else none
  | _ => none

variable {apiVersion : String} {b : Broker} {r : Request} {op : Operation} {raw : RawParams}
  {m : Method}

theorem mounted?_eq_some {bindings : Bool} {e : Endpoint} (h : mounted? bindings r = some (raw, m, e)) :
    ∃ route, (brokerTable bindings).find? r.path = some (route, raw) ∧
      Method.ofName? r.method = some m ∧ route.endpoint? m = some e := by
  obtain ⟨⟨route, raw'⟩, hroute, h⟩ := Option.bind_eq_some_iff.1 h
  obtain ⟨m', hm, h⟩ := Option.bind_eq_some_iff.1 h
  obtain ⟨e', he, heq⟩ := Option.map_eq_some_iff.1 h
  cases heq
  exact ⟨route, hroute, hm, he⟩

theorem guard_report_of_none {g : Gate} {inner : Reply} (h : inner.report = none) :
    (g.guard r inner).report = none := by
  unfold Gate.guard
  split
  · rfl
  · exact h

/-- Where nothing is mounted, nothing is reported. -/
theorem report_of_unmounted (h : mounted? b.bindings.isSome r = none) :
    (app apiVersion b r).report = none := by
  unfold app
  rw [echoIdentity_report]
  unfold Table.handle
  unfold mounted? at h
  cases hroute : (brokerTable b.bindings.isSome).find? r.path with
  | none => exact guard_report_of_none rfl
  | some found =>
    obtain ⟨route, raw⟩ := found
    have hnone : (Method.ofName? r.method).bind route.endpoint? = none := by
      rw [hroute] at h
      cases hm : Method.ofName? r.method with
      | none => rfl
      | some m => simpa only [hm, Option.bind_some, Option.map_eq_none_iff] using h
    simp only [hnone]
    exact guard_report_of_none rfl

/-- A request for the catalog is answered with it, and nothing is reported. -/
theorem report_of_catalog (h : mounted? b.bindings.isSome r = some (raw, m, .catalog)) :
    (app apiVersion b r).report = none := by
  obtain ⟨route, hroute, hm, he⟩ := mounted?_eq_some h
  unfold app
  rw [echoIdentity_report]
  unfold Table.handle
  simp only [hroute, hm, Option.bind_some, he]
  unfold Reply.headOnly
  split <;> exact guard_report_of_none rfl

/-- **A request that reaches an operation** is reported and counted for it, with the status of its
response. -/
theorem report_of_reached (h : reached? apiVersion b r = some op) :
    ∃ report, (app apiVersion b r).report = some report ∧
      report.counted = [(op, (app apiVersion b r).response.status)] := by
  unfold reached? at h
  split at h
  · rename_i raw m op' hmounted
    split at h
    · rename_i hclean
      cases h
      obtain ⟨route, hroute, hm, hop⟩ := mounted?_eq_some hmounted
      obtain ⟨hmem, hkeys⟩ := params_of_find? hroute
      obtain ⟨hasks, hserves, hchanges⟩ := brokerTable_suits hmem hop
      rw [← hkeys] at hasks
      -- without a defect the request is a call, and what is mounted is served
      obtain ⟨c, -, hcop, hguard⟩ :=
        guard_of_no_defect (b := b) hchanges hasks (List.isEmpty_iff.1 hclean)
      obtain ⟨report, hreport, -⟩ := Broker.perform?_of_serves (b := b) (hcop ▸ hserves)
      refine ⟨report, ?_, ?_⟩
      · rw [app_of_mounted hroute hm hop, Reply.dressed_report, hguard, perform, hreport]
      · rw [app_of_mounted hroute hm hop, Reply.dressed_status, hguard, perform, hreport, ← hcop]
        exact Broker.carried_of_perform? hreport
    · cases h
  · cases h

/-- **A request that reaches no operation** is not reported. -/
theorem report_of_unreached (h : reached? apiVersion b r = none) :
    (app apiVersion b r).report = none := by
  cases hmounted : mounted? b.bindings.isSome r with
  | none => exact report_of_unmounted hmounted
  | some found =>
    obtain ⟨raw, m, e⟩ := found
    cases e with
    | catalog => exact report_of_catalog hmounted
    | operation op =>
      obtain ⟨route, hroute, hm, hop⟩ := mounted?_eq_some hmounted
      obtain ⟨hmem, hkeys⟩ := params_of_find? hroute
      obtain ⟨hasks, -, hchanges⟩ := brokerTable_suits hmem hop
      rw [← hkeys] at hasks
      unfold reached? at h
      rw [hmounted] at h
      cases hds : defects apiVersion m op raw r with
      | nil =>
        simp only [hds] at h
        cases h
      | cons d ds =>
        rw [app_of_mounted hroute hm hop, Reply.dressed_report, guard_of_defect hchanges hasks hds]

/-! ## Requests in turn -/

/-- The session after requests in turn. -/
def afterAll (apiVersion : String) (s : Session) (rs : List Request) : Session :=
  rs.foldl (fun s r => afterReply s (app apiVersion s.broker r)) s

theorem afterReply_eq (s : Session) (reply : Reply) :
    afterReply s reply = { s with ledger := s.ledger.recordAll reply.report.toList } := by
  unfold afterReply
  cases reply.report <;> rfl

/-- **Requests in turn add their reports to the ledger** of a session whose broker stays as it is. -/
theorem afterAll_eq (s : Session) (rs : List Request) :
    afterAll apiVersion s rs = { s with
      ledger := s.ledger.recordAll (rs.filterMap fun r => (app apiVersion s.broker r).report) } := by
  induction rs generalizing s with
  | nil => rfl
  | cons r rs ih =>
    have hstep : afterAll apiVersion s (r :: rs) =
        afterAll apiVersion (afterReply s (app apiVersion s.broker r)) rs := rfl
    rw [hstep, ih, afterReply_eq, List.filterMap_eq_flatMap_toList,
      List.filterMap_eq_flatMap_toList, List.flatMap_cons]
    unfold Ledger.recordAll
    rw [List.foldl_append]

variable (apiVersion) (s : Session) (rs : List Request) (op) (status : Nat)

/-- What is counted of requests in turn: the operation that each reaches, and the status of its
response. -/
theorem counted_requests (b : Broker) :
    (rs.filterMap fun r => (app apiVersion b r).report).flatMap Report.counted =
      rs.filterMap fun r =>
        (reached? apiVersion b r).map fun op => (op, (app apiVersion b r).response.status) := by
  refine Report.counted_filterMap (fun r => ?_) rs
  cases hr : reached? apiVersion b r with
  | none => rw [report_of_unreached hr]; rfl
  | some op =>
    obtain ⟨report, hreport, hcounted⟩ := report_of_reached hr
    rw [hreport]
    exact (List.append_nil _).trans hcounted

/-- The responses to requests that reach an operation, counted by operation and status. -/
theorem requests_afterAll :
    (afterAll apiVersion s rs).ledger.metrics.count (.requests op status) =
      s.ledger.metrics.count (.requests op status) +
        rs.countP fun r => reached? apiVersion s.broker r = some op &&
          (app apiVersion s.broker r).response.status = status := by
  rw [afterAll_eq, Ledger.requests_recordAll, counted_requests, List.count_filterMap]
  congr 1
  refine List.countP_congr fun r _ => ?_
  cases reached? apiVersion s.broker r <;> simp

/-- The durations of requests that reach an operation. -/
theorem durations_afterAll :
    (afterAll apiVersion s rs).ledger.metrics.count (.durations op) =
      s.ledger.metrics.count (.durations op) +
        rs.countP fun r => reached? apiVersion s.broker r = some op := by
  rw [afterAll_eq, Ledger.durations_recordAll, counted_requests, List.countP_filterMap]
  congr 1
  refine List.countP_congr fun r _ => ?_
  cases reached? apiVersion s.broker r <;> simp

/-- Requests that reach no operation might as well not have been sent. -/
theorem afterAll_filter :
    afterAll apiVersion s (rs.filter fun r => (reached? apiVersion s.broker r).isSome) =
      afterAll apiVersion s rs := by
  rw [afterAll_eq, afterAll_eq, List.filterMap_filter]
  congr 3
  funext r
  cases hr : reached? apiVersion s.broker r with
  | none => simp [report_of_unreached hr]
  | some op => rfl

end Http

/-! ## The law -/

/-- **The metrics of requests tell the steps of a run.** For each operation, calls add to the requests
of a status the steps answered with it, and to the durations all steps that can be made. Requests of
the protocol add those that reach the operation, by the status of their response; the others, for the
catalog or turned away, leave the session as it is. -/
theorem requests_are_counted_once (s : Session) (op : Operation) (status : Nat) :
    (∀ cs,
      (s.afterAll cs).ledger.metrics.count (.requests op status) =
        s.ledger.metrics.count (.requests op status) +
          (cs.zip (s.reports cs)).countP (fun (c, report) =>
            c.operation = op && report.any (·.answer.status = status)) ∧
      (s.afterAll cs).ledger.metrics.count (.durations op) =
        s.ledger.metrics.count (.durations op) +
          cs.countP fun c => c.operation = op && s.broker.Serves c.operation) ∧
    ∀ apiVersion rs,
      (Http.afterAll apiVersion s rs).ledger.metrics.count (.requests op status) =
        s.ledger.metrics.count (.requests op status) +
          rs.countP (fun r => Http.reached? apiVersion s.broker r = some op &&
            (Http.app apiVersion s.broker r).response.status = status) ∧
      (Http.afterAll apiVersion s rs).ledger.metrics.count (.durations op) =
        s.ledger.metrics.count (.durations op) +
          rs.countP (fun r => Http.reached? apiVersion s.broker r = some op) ∧
      Http.afterAll apiVersion s
          (rs.filter fun r => (Http.reached? apiVersion s.broker r).isSome) =
        Http.afterAll apiVersion s rs := by
  constructor
  · intro cs
    exact ⟨s.requests_afterAll cs op status, s.durations_afterAll cs op⟩
  · intro apiVersion rs
    exact ⟨Http.requests_afterAll apiVersion op s rs status, Http.durations_afterAll apiVersion op s rs,
      Http.afterAll_filter apiVersion s rs⟩

end Brokerage
