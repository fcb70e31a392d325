import Brokerage.Proofs.Session
import Brokerage.Sample

/-!
# Calls are independent

A broker keeps nothing from one call to the next. What a session reports, logs, counts and keeps is
what its calls do one by one, each on a session of its own.

* `flatMap_requests`: the services are given what the calls hand over, in order.
* `Broker.FindsDeleted`: a poll that finds that a deletion has succeeded.
* `reports_replicate`: a call that is repeated has the same report every time.
* `calls_are_independent`: **a session is the sum of its calls**; in another order they have the same
  reports, and a poll after a deletion is answered 410 however often.
-/

namespace Brokerage

variable {b : Broker} {c : Call} {q : AnyRequest}

/-! ## What calls hand over -/

namespace Broker

theorem operation_of_handed? (h : b.handed? c = some q) : q.operation = c.operation :=
  operation_of_resolve (resolve_of_handed? h)

variable (b) (cs : List Call)

/-- **The services are given what the calls hand over**, in the order of the calls. -/
theorem flatMap_requests :
    (cs.filterMap b.perform?).flatMap Report.requests = cs.filterMap b.handed? := by
  rw [List.filterMap_eq_flatMap_toList, List.flatMap_assoc, List.filterMap_eq_flatMap_toList]
  exact congrArg (List.flatMap · cs) (funext (requests_of_perform? b))

/-- The requests of an operation that are handed over, counted by their calls. -/
theorem count_handed (op : Operation) :
    ((cs.filterMap b.handed?).map AnyRequest.operation).count op =
      cs.countP fun c => c.operation = op && (b.handed? c).isSome := by
  induction cs with
  | nil => rfl
  | cons c cs ih =>
    rw [List.filterMap_cons, List.countP_cons]
    cases hq : b.handed? c with
    | none => simpa using ih
    | some q =>
      rw [List.map_cons, List.count_cons, ih, operation_of_handed? hq]
      simp

end Broker

/-! ## Repeated polls -/

/-- No hook of the registry stops a request. -/
def FlowRegistry.Passes (r : FlowRegistry) : Prop :=
  Hook.firstFault? r.initialization = none ∧ Hook.firstFault? r.completion = none

/-- The call is a poll that finds that a deletion has succeeded: the service says so, and no hook
fails. -/
inductive Broker.FindsDeleted (b : Broker) (c : Call) : Prop
  | ofInstance {q : Instance.PollRequest} {poll : Instance.PollRequest → Outcome Instance.PollResponse}
      {r : Instance.PollResponse} (hq : c.resolve b.catalog = .ok (.pollInstance q))
      (hpoll : b.instances.poll = some poll) (hr : poll q = .ok (some r))
      (hstate : r.state = .succeeded) (hdelete : r.isDelete = true)
      (hpasses : b.flows.pollInstance.Passes) : FindsDeleted b c
  | ofBinding {q : Binding.PollRequest} {s : BindingService}
      {poll : Binding.PollRequest → Outcome Binding.PollResponse} {r : Binding.PollResponse}
      (hq : c.resolve b.catalog = .ok (.pollBinding q)) (hs : b.bindings = some s)
      (hpoll : s.poll = some poll) (hr : poll q = .ok (some r))
      (hstate : r.state = .succeeded) (hdelete : r.isDelete = true)
      (hpasses : b.flows.pollBinding.Passes) : FindsDeleted b c

theorem Pipeline.outcome_of_passes {α ρ : Type} [Inhabited ρ] {flows : FlowRegistry}
    (h : flows.Passes) (business : Consultation α ρ) :
    (run flows business).outcome = business.outcome := by
  rw [(run_eq flows business).2]
  unfold verdict
  rw [h.1, h.2]
  cases business.outcome <;> rfl

theorem polledStatus_of_deleted {state : OperationState} {isDelete : Bool}
    (hstate : state = .succeeded) (hdelete : isDelete = true) : polledStatus state isDelete = 410 :=
  if_pos ⟨hstate, hdelete⟩

theorem Broker.perform?_of_findsDeleted (h : b.FindsDeleted c) :
    ∃ report, report.answer.status = 410 ∧ b.perform? c = some report := by
  cases h with
  | @ofInstance q poll r hq hpoll hr hstate hdelete hpasses =>
    refine ⟨_, ?_, perform?_of_resolve_ok hq⟩
    show (Answer.ofOutcome .pollInstance (Pipeline.run b.flows.pollInstance
      (consultIfOffered "last operation" b.instances.poll q)).outcome).status = 410
    rw [Pipeline.outcome_of_passes hpasses, hpoll]
    show (Answer.ofOutcome _ (poll q)).status = 410
    rw [hr]
    exact polledStatus_of_deleted hstate hdelete
  | @ofBinding q s poll r hq hs hpoll hr hstate hdelete hpasses =>
    refine ⟨_, ?_, (perform?_of_resolve_ok hq).trans (congrArg (Option.map _) hs)⟩
    show (Answer.ofOutcome .pollBinding (Pipeline.run b.flows.pollBinding
      (consultIfOffered "last binding operation" s.poll q)).outcome).status = 410
    rw [Pipeline.outcome_of_passes hpasses, hpoll]
    show (Answer.ofOutcome _ (poll q)).status = 410
    rw [hr]
    exact polledStatus_of_deleted hstate hdelete

/-! ## The law -/

namespace Session

variable (s : Session)

/-- **A call that is repeated has the same report every time.** -/
theorem reports_replicate (n : Nat) (c : Call) :
    s.reports (List.replicate n c) = List.replicate n (s.broker.perform? c) := by
  rw [reports_eq, List.map_replicate]

/-- **In another order the calls have the same reports.** -/
theorem zip_reports_perm {cs cs' : List Call} (h : cs.Perm cs') :
    (cs.zip (s.reports cs)).Perm (cs'.zip (s.reports cs')) := by
  rw [zip_reports, zip_reports]
  exact h.map _

theorem log_after (c : Call) : (s.after c).ledger.log =
    s.ledger.log ++ (s.broker.perform? c).toList.flatMap Report.notes := by
  rw [after_eq]
  exact Ledger.log_recordAll _ _

end Session

/-- **A session is the sum of its calls.** Each call has the report that it has on a session of its
own; the log is that of the single calls, in order; a call is counted for its operation if it hands
over a request, and the total of a counter is the sum over all operations; the requests that services
keep are those handed over, in order. In another order the calls have the same reports, and a poll that
finds its resource deleted is answered 410 every time. -/
theorem calls_are_independent (b : Broker) (cs : List Call) :
    b.session.reports cs = cs.map (fun c => (b.session.perform? c).map (·.1)) ∧
    (b.session.afterAll cs).ledger.log = cs.flatMap (fun c => (b.session.after c).ledger.log) ∧
    (∀ op, ((b.session.afterAll cs).ledger.calls op.resource).count op =
      cs.countP fun c => c.operation = op && (b.handed? c).isSome) ∧
    (∀ resource, ((b.session.afterAll cs).ledger.calls resource).Balanced) ∧
    (∀ op, (b.session.afterAll cs).ledger.kept? op =
      if op.isKept then some ((cs.filterMap b.handed?).filter (·.operation = op)) else none) ∧
    (∀ cs', cs.Perm cs' →
      (cs.zip (b.session.reports cs)).Perm (cs'.zip (b.session.reports cs'))) ∧
    (∀ c, b.FindsDeleted c → ∀ n, ∃ report, report.answer.status = 410 ∧
      (b.session.afterAll cs).reports (List.replicate n c) = List.replicate n (some report)) := by
  have hledger : (b.session.afterAll cs).ledger = ({} : Ledger).recordAll (cs.filterMap b.perform?) :=
    congrArg Session.ledger (Session.afterAll_eq b.session cs)
  refine ⟨?_, ?_, ?_, ?_, ?_, ?_, ?_⟩
  · rw [Session.reports_eq]
    exact List.map_congr_left fun c _ => (Session.report_perform? b.session c).symm
  · rw [hledger, Ledger.log_recordAll, List.nil_append, List.filterMap_eq_flatMap_toList,
      List.flatMap_assoc]
    exact congrArg (List.flatMap · cs) (funext fun c => (Session.log_after b.session c).symm)
  · intro op
    have hcount : ∀ k, (({} : Ledger).calls k).count op = 0 := by
      intro k
      cases k <;> rfl
    rw [hledger, Ledger.calls_recordAll, Ledger.calls_seeAll, Broker.flatMap_requests,
      CallCounter.count_bumpAll, hcount, Nat.zero_add, ← Broker.count_handed]
    exact List.count_filter (decide_eq_true rfl)
  · intro resource
    rw [hledger, Ledger.calls_recordAll, Ledger.calls_seeAll]
    refine CallCounter.Balanced.bumpAll ?_ _
    cases resource <;> exact CallCounter.balanced_nil
  · intro op
    rw [hledger, Ledger.kept?_recordAll, Ledger.kept?_seeAll, Broker.flatMap_requests]
    cases op <;> rfl
  · intro cs' h
    exact Session.zip_reports_perm _ h
  · intro c hc n
    obtain ⟨report, hstatus, hreport⟩ := Broker.perform?_of_findsDeleted hc
    refine ⟨report, hstatus, ?_⟩
    rw [Session.reports_replicate, Session.afterAll_eq]
    exact congrArg _ hreport

namespace Sample

/-- A broker of the catalog whose service has deleted the instance. -/
def deleting : Broker where
  catalog := catalog
  instances := .scripted { poll := .ok (some { state := .succeeded, isDelete := true }) }
  flows := { pollInstance := { initialization := [{ name := "audit" }] } }

/-- What asks after the deletion. -/
def pollOfDeletion : Call := .pollInstance { instanceId, body := {} }

/-- Asked three times after an instance was read, the broker says each time that it is gone. -/
theorem pollOfDeletion_repeats : ∃ report, report.answer.status = 410 ∧
    (deleting.session.afterAll [.getInstance { instanceId, body := () }]).reports
      (List.replicate 3 pollOfDeletion) = List.replicate 3 (some report) :=
  have hdeleted : deleting.FindsDeleted pollOfDeletion := .ofInstance rfl rfl rfl rfl rfl ⟨rfl, rfl⟩
  (calls_are_independent deleting _).2.2.2.2.2.2 pollOfDeletion hdeleted 3

end Sample

end Brokerage
