import Brokerage.Proofs.Report
import Brokerage.Session
import Mathlib

/-!
# Runs of a session

What one call adds to a ledger, and from it what calls in turn do.

* `CallCounter.count_bump`, `CallCounter.Balanced`: a counter counts one call more, and its total
  stays the sum over all operations.
* `Ledger.calls`, `Ledger.kept?`: the counter and the requests of an operation, whatever its resource.
* `Session.afterAll`, `Session.reports`: calls in turn.
* `Session.after_eq`, `Session.afterAll_eq`: **a session only adds the reports of its broker to its
  ledger**, and `Session.reports_eq`, `zip_reports`: its broker stays as it is.
* `Ledger.log_recordAll`, `calls_recordAll`, `kept?_recordAll`: what reports leave in a ledger.
-/

namespace Brokerage

/-! ## Counters -/

namespace CallCounter

variable (op o : Operation) (c : CallCounter)

theorem count_bump : (c.bump o).count op = c.count op + if o = op then 1 else 0 := by
  -- on the entries: the first one of `o` is raised, and `count` reads the first one of `op`
  induction c with
  | nil => exact (Nat.zero_add _).symm
  | cons e rest ih =>
    obtain ⟨other, n⟩ := e
    by_cases ho : other = o
    · subst ho
      rw [bump, if_pos rfl, count, count]
      split <;> rfl
    · rw [bump, if_neg ho, count, count]
      by_cases hop : other = op
      · rw [if_pos hop, if_pos hop, if_neg fun h => ho (hop.trans h.symm), Nat.add_zero]
      · rw [if_neg hop, if_neg hop, ih]

theorem total_bump : (c.bump o).total = c.total + 1 := by
  induction c with
  | nil => rfl
  | cons e rest ih =>
    obtain ⟨other, n⟩ := e
    have htotal : ∀ (m : Nat) (d : CallCounter), total ((other, m) :: d) = m + total d :=
      fun _ _ => rfl
    unfold bump
    split
    · rw [htotal, htotal, Nat.add_right_comm]
    · rw [htotal, htotal, ih, Nat.add_assoc]

/-- The total is the sum over all operations. -/
def Balanced : Prop := c.total = (Operation.all.map fun op => c.count op).sum

theorem Balanced.bump {c : CallCounter} (h : c.Balanced) : (c.bump o).Balanced := by
  -- exactly one operation is counted once more
  have hsum : (Operation.all.map fun op => c.count op + if o = op then 1 else 0).sum =
      (Operation.all.map fun op => c.count op).sum + 1 := by
    cases o <;> simp only [Operation.all, List.map_cons, List.map_nil, List.sum_cons, List.sum_nil,
      reduceCtorEq, if_true, if_false] <;> omega
  unfold Balanced at h ⊢
  rw [total_bump, h, ← hsum]
  exact congrArg List.sum (List.map_congr_left fun op _ => (count_bump op o c).symm)

/-- The counter after calls of several operations. -/
def bumpAll (ops : List Operation) (c : CallCounter) : CallCounter :=
  ops.foldl (fun c o => c.bump o) c

theorem bumpAll_append (ops ops' : List Operation) :
    c.bumpAll (ops ++ ops') = (c.bumpAll ops).bumpAll ops' := List.foldl_append

theorem count_bumpAll (ops : List Operation) : (c.bumpAll ops).count op = c.count op + ops.count op := by
  induction ops generalizing c with
  | nil => rfl
  | cons o ops ih =>
    have hstep : c.bumpAll (o :: ops) = (c.bump o).bumpAll ops := rfl
    rw [hstep, ih, count_bump, List.count_cons, Nat.add_assoc, Nat.add_comm (if o = op then 1 else 0)]
    simp only [beq_iff_eq]

theorem Balanced.bumpAll {c : CallCounter} (h : c.Balanced) (ops : List Operation) :
    (c.bumpAll ops).Balanced := by
  induction ops generalizing c with
  | nil => exact h
  | cons o ops ih => exact ih (h.bump o)

theorem balanced_nil : Balanced [] := rfl

end CallCounter

/-! ## What services have seen -/

/-- The services keep the requests of the operation. -/
def Operation.isKept : Operation → Bool
  | getInstance | getBinding | pollBinding => false
  | _ => true

namespace Ledger

/-- The calls that the service for a resource has had. -/
def calls (l : Ledger) : Resource → CallCounter
  | .serviceInstance => l.instances.calls
  | .serviceBinding => l.bindings.calls

/-- The requests of an operation, if its service keeps them. -/
def kept? (l : Ledger) : Operation → Option (List AnyRequest)
  | .createInstance => some (l.instances.created.map .createInstance)
  | .updateInstance => some (l.instances.updated.map .updateInstance)
  | .deleteInstance => some (l.instances.deleted.map .deleteInstance)
  | .pollInstance => some (l.instances.polled.map .pollInstance)
  | .createBinding => some (l.bindings.created.map .createBinding)
  | .deleteBinding => some (l.bindings.deleted.map .deleteBinding)
  | _ => none

/-- The ledger after a service was given a request. -/
def see (l : Ledger) (q : AnyRequest) : Ledger :=
  { l with instances := l.instances.note q, bindings := l.bindings.note q }

/-- The ledger after services were given requests in turn. -/
def seeAll (l : Ledger) (qs : List AnyRequest) : Ledger := qs.foldl see l

variable (l : Ledger) (q : AnyRequest) (qs : List AnyRequest) (op : Operation) (k : Resource)

/-- A request is counted once, for its operation, by the service for its resource. -/
theorem calls_see :
    (l.see q).calls k = (l.calls k).bumpAll ([q.operation].filter (·.resource = k)) := by
  cases k <;> cases q <;> rfl

/-- A request is kept behind the others of its operation. -/
theorem kept?_see : (l.see q).kept? op = (l.kept? op).map (· ++ [q].filter (·.operation = op)) := by
  cases q <;> cases op <;>
    simp [see, kept?, InstanceRecord.note, BindingRecord.note, AnyRequest.operation]

theorem calls_seeAll : (l.seeAll qs).calls k =
    (l.calls k).bumpAll ((qs.map AnyRequest.operation).filter (·.resource = k)) := by
  induction qs generalizing l with
  | nil => rfl
  | cons q qs ih =>
    have hstep : l.seeAll (q :: qs) = (l.see q).seeAll qs := rfl
    have hsplit : (q :: qs).map AnyRequest.operation = [q.operation] ++ qs.map AnyRequest.operation :=
      rfl
    rw [hstep, ih, calls_see, hsplit, List.filter_append, CallCounter.bumpAll_append]

theorem kept?_seeAll :
    (l.seeAll qs).kept? op = (l.kept? op).map (· ++ qs.filter (·.operation = op)) := by
  induction qs generalizing l with
  | nil => cases hkept : l.kept? op <;> simp [seeAll, hkept]
  | cons q qs ih =>
    have hstep : l.seeAll (q :: qs) = (l.see q).seeAll qs := rfl
    rw [hstep, ih, kept?_see, Option.map_map]
    congr 1
    funext kept
    show kept ++ [q].filter _ ++ _ = kept ++ ([q] ++ qs).filter _
    rw [List.append_assoc, List.filter_append]

theorem seeAll_eq : l.seeAll qs =
    { l with
      instances := qs.foldl InstanceRecord.note l.instances
      bindings := qs.foldl BindingRecord.note l.bindings } := by
  induction qs generalizing l with
  | nil => rfl
  | cons q qs ih => exact ih (l.see q)

/-! ## What reports leave behind -/

/-- The ledger after several reports. -/
def recordAll (l : Ledger) (rs : List Report) : Ledger := rs.foldl record l

variable (rs : List Report)

theorem log_recordAll : (l.recordAll rs).log = l.log ++ rs.flatMap Report.notes := by
  induction rs generalizing l with
  | nil => exact (List.append_nil _).symm
  | cons r rs ih =>
    rw [List.flatMap_cons, ← List.append_assoc]
    exact ih (l.record r)

theorem instances_recordAll : (l.recordAll rs).instances =
    (rs.flatMap Report.requests).foldl InstanceRecord.note l.instances := by
  induction rs generalizing l with
  | nil => rfl
  | cons r rs ih =>
    rw [List.flatMap_cons, List.foldl_append]
    exact ih (l.record r)

theorem bindings_recordAll : (l.recordAll rs).bindings =
    (rs.flatMap Report.requests).foldl BindingRecord.note l.bindings := by
  induction rs generalizing l with
  | nil => rfl
  | cons r rs ih =>
    rw [List.flatMap_cons, List.foldl_append]
    exact ih (l.record r)

theorem calls_recordAll :
    (l.recordAll rs).calls k = (l.seeAll (rs.flatMap Report.requests)).calls k := by
  rw [seeAll_eq]
  cases k with
  | serviceInstance => exact congrArg InstanceRecord.calls (instances_recordAll l rs)
  | serviceBinding => exact congrArg BindingRecord.calls (bindings_recordAll l rs)

theorem kept?_recordAll :
    (l.recordAll rs).kept? op = (l.seeAll (rs.flatMap Report.requests)).kept? op := by
  rw [seeAll_eq, ← instances_recordAll, ← bindings_recordAll]
  cases op <;> rfl

end Ledger

/-! ## Calls in turn -/

/-- A session of a broker in which nothing has happened yet. -/
def Broker.session (b : Broker) : Session := { broker := b }

namespace Session

/-- The session after calls in turn. -/
def afterAll (s : Session) (cs : List Call) : Session := cs.foldl after s

/-- The reports of calls in turn; none for a call that cannot be made. -/
def reports : Session → List Call → List (Option Report)
  | _, [] => []
  | s, c :: rest => (s.perform? c).map (·.1) :: (s.after c).reports rest

variable (s : Session) (c : Call) (cs : List Call)

/-- **A call adds its report to the ledger** and changes nothing else. -/
theorem after_eq :
    s.after c = { s with ledger := s.ledger.recordAll (s.broker.perform? c).toList } := by
  unfold after perform?
  cases s.broker.perform? c <;> rfl

/-- **Calls in turn add their reports to the ledger**, each the report of the broker alone. -/
theorem afterAll_eq :
    s.afterAll cs = { s with ledger := s.ledger.recordAll (cs.filterMap s.broker.perform?) } := by
  -- a call leaves the broker alone, so those behind it are made on the same one
  induction cs generalizing s with
  | nil => rfl
  | cons c cs ih =>
    have hstep : s.afterAll (c :: cs) = (s.after c).afterAll cs := rfl
    rw [hstep, ih, after_eq, List.filterMap_eq_flatMap_toList, List.filterMap_eq_flatMap_toList,
      List.flatMap_cons]
    unfold Ledger.recordAll
    rw [List.foldl_append]

theorem report_perform? : (s.perform? c).map (·.1) = s.broker.perform? c := by
  unfold perform?
  cases s.broker.perform? c <;> rfl

theorem reports_eq : s.reports cs = cs.map s.broker.perform? := by
  induction cs generalizing s with
  | nil => rfl
  | cons c cs ih =>
    have hrest : (s.after c).broker = s.broker := by rw [after_eq]
    rw [reports, report_perform?, ih, hrest, List.map_cons]

theorem zip_reports : cs.zip (s.reports cs) = cs.map fun c => (c, s.broker.perform? c) := by
  have hzip := List.zip_map' (f := id) (g := s.broker.perform?) (l := cs)
  rw [List.map_id] at hzip
  rw [reports_eq, hzip]
  rfl

end Session

end Brokerage
