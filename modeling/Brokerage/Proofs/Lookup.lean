import Brokerage.Proofs.CatalogGate
import Brokerage.Proofs.Handover
import Mathlib.Data.List.Nodup

/-!
# One lookup, three resolvers

Ids may repeat in a catalog. The services are kept in an index, where a later one takes the place of an
earlier one, and the plans of a service are searched in order, so a lookup finds the last service and in
it the first plan. The three resolvers are three ways to tell what this one lookup found.

* `Catalog.index`, `Catalog.getElem?_index`: the index of the services has what is looked up.
* `Catalog.IsLast`, `ServiceDefinition.IsFirst`: the last service and the first plan of an id.
* `Catalog.Agree`: all three resolvers give the same service and plan.
* `resolvers_agree`: **what each resolver tells, in every case of the lookup.** Where ids do not repeat,
  everything that is listed is found by its ids.
-/

namespace Brokerage

/-! ## The first and the last of an id -/

namespace ServiceDefinition

variable {d : ServiceDefinition} {id : String}

/-- The plan is the first one of the service with the id. -/
def IsFirst (d : ServiceDefinition) (id : String) (q : Plan) : Prop :=
  ∃ before after, d.plans = before ++ q :: after ∧ q.id = id ∧ ∀ x ∈ before, x.id ≠ id

theorem plan?_eq_some_iff {q : Plan} : d.plan? id = some q ↔ d.IsFirst id q := by
  unfold plan? IsFirst
  rw [List.find?_eq_some_iff_append]
  simp only [beq_iff_eq, Bool.not_eq_true', beq_eq_false_iff_ne, ne_eq]
  constructor
  · rintro ⟨hid, before, after, hplans, hbefore⟩
    exact ⟨before, after, hplans, hid, hbefore⟩
  · rintro ⟨before, after, hplans, hid, hbefore⟩
    exact ⟨hid, before, after, hplans, hbefore⟩

/-- There is a first one as soon as there is one. -/
theorem exists_isFirst_iff : (∃ q, d.IsFirst id q) ↔ ∃ q ∈ d.plans, q.id = id := by
  have hnone : d.plan? id = none ↔ ∀ q ∈ d.plans, q.id ≠ id := Catalog.plan?_eq_none_iff
  constructor
  · rintro ⟨q, before, after, hplans, hid, -⟩
    exact ⟨q, by simp [hplans], hid⟩
  · rintro ⟨q, hq, hid⟩
    cases hfind : d.plan? id with
    | none => exact absurd hid (hnone.1 hfind q hq)
    | some q' => exact ⟨q', plan?_eq_some_iff.1 hfind⟩

/-- Where ids do not repeat, each plan is the first of its id. -/
theorem isFirst_of_nodup (h : (d.plans.map (·.id)).Nodup) {q : Plan} (hq : q ∈ d.plans) :
    d.IsFirst q.id q := by
  obtain ⟨q', before, after, hplans, hid, hbefore⟩ := exists_isFirst_iff.2 ⟨q, hq, rfl⟩
  have hq' : q' ∈ d.plans := by simp [hplans]
  obtain rfl : q' = q := List.inj_on_of_nodup_map h hq' hq hid
  exact ⟨before, after, hplans, hid, hbefore⟩

end ServiceDefinition

namespace Catalog

variable {c : Catalog} {id : String} {d : ServiceDefinition}

/-- The service is the last one of the catalog with the id. -/
def IsLast (c : Catalog) (id : String) (d : ServiceDefinition) : Prop :=
  ∃ before after, c.services = before ++ d :: after ∧ d.id = id ∧ ∀ x ∈ after, x.id ≠ id

theorem service?_eq_some_iff : c.service? id = some d ↔ c.IsLast id d := by
  unfold service? IsLast
  rw [List.find?_eq_some_iff_append]
  simp only [beq_iff_eq, Bool.not_eq_true', beq_eq_false_iff_ne, ne_eq]
  -- the services are searched from behind, so what stands before a hit stands after it in order
  constructor
  · rintro ⟨hid, before, after, hservices, hbefore⟩
    refine ⟨after.reverse, before.reverse, ?_, hid, fun x hx => hbefore x (List.mem_reverse.1 hx)⟩
    rw [← List.reverse_reverse c.services, hservices]
    simp
  · rintro ⟨before, after, hservices, hid, hafter⟩
    refine ⟨hid, after.reverse, before.reverse, ?_, fun x hx => hafter x (List.mem_reverse.1 hx)⟩
    rw [hservices]
    simp

/-- There is a last one as soon as there is one. -/
theorem exists_isLast_iff : (∃ d, c.IsLast id d) ↔ ∃ d ∈ c.services, d.id = id := by
  constructor
  · rintro ⟨d, before, after, hservices, hid, -⟩
    exact ⟨d, by simp [hservices], hid⟩
  · rintro ⟨d, hd, hid⟩
    cases hfind : c.service? id with
    | none => exact absurd hid (service?_eq_none_iff.1 hfind d hd)
    | some d' => exact ⟨d', service?_eq_some_iff.1 hfind⟩

/-- Where ids do not repeat, each service is the last of its id. -/
theorem isLast_of_nodup (h : (c.services.map (·.id)).Nodup) (hd : d ∈ c.services) :
    c.IsLast d.id d := by
  obtain ⟨d', before, after, hservices, hid, hafter⟩ := exists_isLast_iff.2 ⟨d, hd, rfl⟩
  have hd' : d' ∈ c.services := by simp [hservices]
  obtain rfl : d' = d := List.inj_on_of_nodup_map h hd' hd hid
  exact ⟨before, after, hservices, hid, hafter⟩

/-! ## The index -/

/-- The services by their ids, put in one after the other. -/
def index (c : Catalog) : Std.HashMap String ServiceDefinition :=
  c.services.foldl (fun entries d => entries.insert d.id d) ∅

/-- **The index has what is looked up**: an entry that is put in takes the place of those before it. -/
theorem getElem?_index (c : Catalog) (id : String) : c.index[id]? = c.service? id := by
  have hfold : ∀ (services : List ServiceDefinition) (entries : Std.HashMap String ServiceDefinition),
      (services.foldl (fun entries d => entries.insert d.id d) entries)[id]? =
        (services.reverse.find? (·.id == id)).or entries[id]? := by
    intro services
    induction services with
    | nil => intro entries; rfl
    | cons d rest ih =>
      intro entries
      rw [List.foldl_cons, ih, Std.HashMap.getElem?_insert, List.reverse_cons, List.find?_append,
        Option.or_assoc]
      by_cases hid : d.id = id
      · simp [hid]
      · simp [hid]
  unfold index service?
  rw [hfold]
  simp

/-! ## Resolvers -/

variable {q : Plan} {serviceId planId : String}

/-- All three resolvers give the same service and plan for two ids. -/
structure Agree (c : Catalog) (serviceId planId : String) (d : ServiceDefinition) (q : Plan) :
    Prop where
  require : c.require serviceId planId = .ok (d, q)
  tolerate : c.tolerate serviceId planId = (d, some q)
  bestEffort : c.bestEffort (some serviceId) (some planId) = (some d, some q)

/-- **Found**: all three tell the pair. -/
theorem agree_of_found (hd : c.IsLast serviceId d) (hq : d.IsFirst planId q) :
    c.Agree serviceId planId d q := by
  have hservice := service?_eq_some_iff.2 hd
  have hplan := ServiceDefinition.plan?_eq_some_iff.2 hq
  constructor
  · simp only [require, requireService, hservice, requirePlan, hplan]
    rfl
  · simp only [tolerate, hservice, hplan]
  · simp only [bestEffort, Option.bind_some, hservice, hplan]

/-- **No service**: a failure that names it, a placeholder, nothing. -/
theorem resolved_of_no_service (h : ∀ d ∈ c.services, d.id ≠ serviceId) :
    c.require serviceId planId = .error (.catalogNotFound .service serviceId) ∧
      c.tolerate serviceId planId = (.placeholder, none) ∧
      ∀ planId, c.bestEffort (some serviceId) planId = (none, none) := by
  have hnone := service?_eq_none_iff.2 h
  refine ⟨?_, ?_, fun planId => ?_⟩
  · simp only [require, requireService, hnone]
  · simp only [tolerate, hnone]
  · simp only [bestEffort, Option.bind_some, hnone]

/-- **No plan**: a failure that names it, the service alone. -/
theorem resolved_of_no_plan (hd : c.IsLast serviceId d) (h : ∀ q ∈ d.plans, q.id ≠ planId) :
    c.require serviceId planId = .error (.catalogNotFound .plan planId) ∧
      c.tolerate serviceId planId = (d, none) ∧
      c.bestEffort (some serviceId) (some planId) = (some d, none) := by
  have hservice := service?_eq_some_iff.2 hd
  have hnone := plan?_eq_none_iff.2 h
  refine ⟨?_, ?_, ?_⟩
  · simp only [require, requireService, hservice, requirePlan, hnone]
    rfl
  · simp only [tolerate, hservice, hnone]
  · simp only [bestEffort, Option.bind_some, hservice, hnone]

theorem bestEffort_of_no_planId (hd : c.IsLast serviceId d) :
    c.bestEffort (some serviceId) none = (some d, none) := by
  have hservice := service?_eq_some_iff.2 hd
  simp only [bestEffort, Option.bind_some, hservice, Option.bind_none]

/-- What has to exist is found exactly if it does. -/
theorem require_eq_ok_iff :
    c.require serviceId planId = .ok (d, q) ↔ c.IsLast serviceId d ∧ d.IsFirst planId q := by
  constructor
  · intro h
    obtain ⟨hservice, hplan⟩ := require_eq_ok h
    exact ⟨service?_eq_some_iff.1 hservice, ServiceDefinition.plan?_eq_some_iff.1 hplan⟩
  · rintro ⟨hd, hq⟩
    exact (agree_of_found hd hq).require

end Catalog

/-- **The three resolvers agree on one lookup.** It finds the last service of an id, the one that the
index has, and in it the first plan of an id. With both, all three give them; without the service, there
are a failure that names it, a placeholder, and nothing; without the plan, a failure that names it, and
the service alone. An id that is not given finds nothing. So where the strict resolver succeeds the other
two give the same, and where ids do not repeat every plan of every service is found by its ids. -/
theorem resolvers_agree (c : Catalog) (serviceId planId : String) :
    (∀ d, c.index[serviceId]? = some d ↔ c.IsLast serviceId d) ∧
      (((∃ d, c.IsLast serviceId d) ↔ ∃ d ∈ c.services, d.id = serviceId) ∧
        ∀ d : ServiceDefinition, (∃ q, d.IsFirst planId q) ↔ ∃ q ∈ d.plans, q.id = planId) ∧
      (∀ d q, c.require serviceId planId = .ok (d, q) ↔
        c.IsLast serviceId d ∧ d.IsFirst planId q) ∧
      ((∀ d ∈ c.services, d.id ≠ serviceId) →
        c.require serviceId planId = .error (.catalogNotFound .service serviceId) ∧
          c.tolerate serviceId planId = (.placeholder, none) ∧
          ∀ planId, c.bestEffort (some serviceId) planId = (none, none)) ∧
      (∀ d, c.IsLast serviceId d →
        (∀ q, d.IsFirst planId q → c.Agree serviceId planId d q) ∧
          ((∀ q ∈ d.plans, q.id ≠ planId) →
            c.require serviceId planId = .error (.catalogNotFound .plan planId) ∧
              c.tolerate serviceId planId = (d, none) ∧
              c.bestEffort (some serviceId) (some planId) = (some d, none)) ∧
          c.bestEffort (some serviceId) none = (some d, none)) ∧
      (∀ planId, c.bestEffort none planId = (none, none)) ∧
      (∀ d q, c.require serviceId planId = .ok (d, q) → c.Agree serviceId planId d q) ∧
      ((c.services.map (·.id)).Nodup → (∀ d ∈ c.services, (d.plans.map (·.id)).Nodup) →
        ∀ d ∈ c.services, ∀ q ∈ d.plans, c.Agree d.id q.id d q) := by
  refine ⟨fun d => ?_, ⟨Catalog.exists_isLast_iff, fun d => ServiceDefinition.exists_isFirst_iff⟩,
    fun d q => Catalog.require_eq_ok_iff, Catalog.resolved_of_no_service, fun d hd => ?_,
    fun planId => rfl, fun d q h => ?_, fun hservices hplans d hd q hq => ?_⟩
  · rw [Catalog.getElem?_index, Catalog.service?_eq_some_iff]
  · exact ⟨fun q hq => Catalog.agree_of_found hd hq, Catalog.resolved_of_no_plan hd,
      Catalog.bestEffort_of_no_planId hd⟩
  · obtain ⟨hd, hq⟩ := Catalog.require_eq_ok_iff.1 h
    exact Catalog.agree_of_found hd hq
  · have hlast := Catalog.isLast_of_nodup hservices hd
    have hfirst := ServiceDefinition.isFirst_of_nodup (hplans d hd) hq
    exact Catalog.agree_of_found hlast hfirst

/-- Of two services of one id the last is found, of its two plans of one id the first. -/
example :
    let plan (name : String) : Plan := { id := "p", name, description := "" }
    let service (name : String) : ServiceDefinition :=
      { id := "s", name, description := "", plans := [plan "first", plan "last"] }
    (Catalog.mk [service "first", service "last"]).tolerate "s" "p" =
      (service "last", some (plan "first")) := rfl

end Brokerage
