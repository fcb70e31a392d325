import Brokerage.Proofs.Session

/-!
# What reports add to the metrics

A session counts what reports carry: requests by operation and status, their durations, and failed
hooks by phase.

* `countOf`: the number that a report counts for a phase.
* `Samples.count_add`: a series that is counted grows, and no other.
* `Report.adds`, `Samples.count_record`: **what one report adds to each series.**
* `Ledger.count_recordAll`: reports in turn add up.
-/

namespace Brokerage

open Metrics (Series Samples)

/-- The number counted for a phase. -/
def countOf (phase : FlowPhase) (failures : List (FlowPhase × Nat)) : Nat :=
  ((failures.filter (·.1 = phase)).map (·.2)).sum

theorem countOf_cons (phase : FlowPhase) (p : FlowPhase) (n : Nat) (rest : List (FlowPhase × Nat)) :
    countOf phase ((p, n) :: rest) = (if p = phase then n else 0) + countOf phase rest := by
  unfold countOf
  rw [List.filter_cons]
  by_cases hp : p = phase
  · rw [if_pos (decide_eq_true hp), if_pos hp, List.map_cons, List.sum_cons]
  · rw [if_neg (by simpa using hp), if_neg hp, Nat.zero_add]

theorem countOf_append (phase : FlowPhase) (fs fs' : List (FlowPhase × Nat)) :
    countOf phase (fs ++ fs') = countOf phase fs + countOf phase fs' := by
  unfold countOf
  rw [List.filter_append, List.map_append, List.sum_append]

/-- What a report adds to a series: one for the answer and for the duration of each request that it
counts, and the failed hooks of each phase by their number. -/
def Report.adds (r : Report) : Series → Nat
  | .requests op status => r.counted.count (op, status)
  | .durations op => r.counted.countP fun q => q.1 = op
  | .flowFailures op phase => if r.operation = op then countOf phase r.flowFailures else 0

namespace Metrics.Samples

theorem count_add (s t : Series) (n : Nat) (m : Samples) :
    (m.add t n).count s = m.count s + if t = s then n else 0 := by
  induction m with
  | nil => exact (Nat.zero_add _).symm
  | cons sample rest ih =>
    obtain ⟨u, k⟩ := sample
    by_cases hu : u = t
    · subst hu
      rw [add, if_pos rfl, count, count]
      split <;> rfl
    · rw [add, if_neg hu, count, count]
      by_cases hs : u = s
      · rw [if_pos hs, if_pos hs, if_neg fun h => hu (hs.trans h.symm), Nat.add_zero]
      · rw [if_neg hs, if_neg hs, ih]

variable (op op' : Operation) (phase : FlowPhase)

theorem count_addFlowFailures (failures : List (FlowPhase × Nat)) (m : Samples) :
    (m.addFlowFailures op' failures).count (.flowFailures op phase) =
      m.count (.flowFailures op phase) + if op' = op then countOf phase failures else 0 := by
  induction failures generalizing m with
  | nil => exact (ite_self 0).symm ▸ rfl
  | cons failure rest ih =>
    obtain ⟨p, n⟩ := failure
    have hstep : m.addFlowFailures op' ((p, n) :: rest) =
        (m.add (.flowFailures op' p) n).addFlowFailures op' rest := rfl
    rw [hstep, ih, count_add, countOf_cons, Nat.add_assoc]
    by_cases hop : op' = op
    · subst hop
      simp
    · simp [hop]

/-- Failed hooks leave the series of answers and durations alone. -/
theorem count_addFlowFailures_of_ne {s : Series} (h : ∀ phase, Series.flowFailures op phase ≠ s)
    (failures : List (FlowPhase × Nat)) (m : Samples) :
    (m.addFlowFailures op failures).count s = m.count s := by
  induction failures generalizing m with
  | nil => rfl
  | cons failure rest ih =>
    obtain ⟨p, n⟩ := failure
    have hstep : m.addFlowFailures op ((p, n) :: rest) =
        (m.add (.flowFailures op p) n).addFlowFailures op rest := rfl
    rw [hstep, ih, count_add, if_neg (h p), Nat.add_zero]

/-- A request adds to the series of its answer and to that of its duration. -/
theorem count_addRequests (qs : List (Operation × Nat)) (m : Samples) (s : Series) :
    (m.addRequests qs).count s =
      m.count s + (qs.countP fun q => Series.requests q.1 q.2 = s) +
        qs.countP fun q => Series.durations q.1 = s := by
  induction qs generalizing m with
  | nil => rfl
  | cons q qs ih =>
    have hstep : m.addRequests (q :: qs) =
        ((m.add (.requests q.1 q.2) 1).add (.durations q.1) 1).addRequests qs := rfl
    rw [hstep, ih, count_add, count_add, List.countP_cons, List.countP_cons]
    simp only [decide_eq_true_eq]
    omega

/-- **A report adds to each series what it counts there.** -/
theorem count_record (r : Report) (m : Samples) (s : Series) :
    (m.record r).count s = m.count s + r.adds s := by
  unfold record
  rw [count_addRequests]
  -- each kind of series is counted by one of the three steps alone
  cases s with
  | requests op status =>
    have hother : ∀ phase, Series.flowFailures r.operation phase ≠ .requests op status :=
      fun _ => nofun
    have hcount : r.counted.count (op, status) =
        r.counted.countP fun q => Series.requests q.1 q.2 = .requests op status := by
      refine List.countP_congr fun q _ => ?_
      rw [beq_iff_eq, decide_eq_true_eq, Series.requests.injEq, Prod.ext_iff]
    rw [count_addFlowFailures_of_ne _ hother, Report.adds, hcount]
    simp only [reduceCtorEq, decide_false, List.countP_false, Function.const_apply, Nat.add_zero]
  | durations op =>
    have hother : ∀ phase, Series.flowFailures r.operation phase ≠ .durations op := fun _ => nofun
    rw [count_addFlowFailures_of_ne _ hother]
    simp only [Report.adds, Series.durations.injEq, reduceCtorEq, decide_false, List.countP_false,
      Function.const_apply, Nat.add_zero]
  | flowFailures op phase =>
    rw [count_addFlowFailures]
    simp only [Report.adds, reduceCtorEq, decide_false, List.countP_false, Function.const_apply, Nat.add_zero]

end Metrics.Samples

/-- **Reports in turn add up what they count.** -/
theorem Ledger.count_recordAll (l : Ledger) (rs : List Report) (s : Series) :
    (l.recordAll rs).metrics.count s = l.metrics.count s + (rs.map (·.adds s)).sum := by
  induction rs generalizing l with
  | nil => rfl
  | cons r rs ih =>
    have hstep : l.recordAll (r :: rs) = (l.record r).recordAll rs := rfl
    have hmetrics : (l.record r).metrics = l.metrics.record r := rfl
    rw [hstep, ih, hmetrics, Samples.count_record, List.map_cons, List.sum_cons, Nat.add_assoc]

end Brokerage
