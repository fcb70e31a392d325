import Brokerage.Catalog.Basic
import Brokerage.Failure

/-!
# Resolving ids

How the ids of a request become catalog entries. Three ways, by how much a request depends on them:

* `Catalog.require`: a missing entry is a failure (create, update).
* `Catalog.tolerate`: a missing service has a placeholder (delete, so that what is no longer offered
  can still be cleaned up).
* `Catalog.bestEffort`: whatever can be found (poll).
-/

namespace Brokerage.Catalog

/-- The service of an id, which has to exist. -/
def requireService (c : Catalog) (serviceId : String) : Except Failure ServiceDefinition :=
  match c.service? serviceId with
  | some d => .ok d
  | none => .error (.catalogNotFound .service serviceId)

/-- The plan of an id, which has to exist in the service. -/
def requirePlan (d : ServiceDefinition) (planId : String) : Except Failure Plan :=
  match d.plan? planId with
  | some p => .ok p
  | none => .error (.catalogNotFound .plan planId)

/-- **Service and plan, which have to exist.** The service is looked up first. -/
def require (c : Catalog) (serviceId planId : String) :
    Except Failure (ServiceDefinition × Plan) :=
  match c.requireService serviceId with
  | .error e => .error e
  | .ok d => (requirePlan d planId).map (d, ·)

/-- Service and plan, the plan only if an id is given. -/
def requireOptionalPlan (c : Catalog) (serviceId : String) (planId : Option String) :
    Except Failure (ServiceDefinition × Option Plan) :=
  match c.requireService serviceId with
  | .error e => .error e
  | .ok d =>
    match planId with
    | none => .ok (d, none)
    | some id => (requirePlan d id).map (d, some ·)

/-- **Service and plan, a placeholder standing in for a missing service.** -/
def tolerate (c : Catalog) (serviceId planId : String) : ServiceDefinition × Option Plan :=
  match c.service? serviceId with
  | some d => (d, d.plan? planId)
  | none => (.placeholder, none)

/-- **What can be found.** Without a service there is no plan. -/
def bestEffort (c : Catalog) (serviceId planId : Option String) :
    Option ServiceDefinition × Option Plan :=
  match serviceId.bind c.service? with
  | some d => (some d, planId.bind d.plan?)
  | none => (none, none)

end Brokerage.Catalog
