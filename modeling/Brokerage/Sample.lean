import Brokerage.Broker

/-!
# A sample

A small catalog and what a platform may ask of it, to try a broker on.

* `Sample.catalog`: one service that can be bound, with a free plan and one that is not.
* `Sample.broker`: a broker of the catalog, without hooks, that does what has to be done.
* `Sample.createInstance` and its siblings: bodies and queries about the service and its free plan.
-/

namespace Brokerage.Sample

/-- The plan that is free of charge. -/
def smallPlan : Plan := { id := "plan-1", name := "small", description := "Small plan" }

/-- The plan that is not. -/
def largePlan : Plan :=
  ({ id := "plan-2", name := "large", description := "Large plan" } : Plan).withFree false

/-- The service of both plans. -/
def service : ServiceDefinition :=
  ((({ id := "sd-1", name := "test-db", description := "A test database" } :
    ServiceDefinition).withBindable true).withPlan smallPlan).withPlan largePlan

/-- **The catalog.** -/
def catalog : Catalog := ⟨[service]⟩

/-- A broker of the catalog. -/
def broker : Broker := { catalog, instances := .minimal }

/-- An instance of the service. -/
def instanceId : String := "instance-1"

/-- A binding of the instance. -/
def bindingId : String := "binding-1"

/-- What creates the instance. -/
def createInstance : Instance.CreateBody where
  serviceId := service.id
  planId := smallPlan.id

/-- What updates the instance, its plan as before. -/
def updateInstance : Instance.UpdateBody where
  serviceId := service.id
  planId := some smallPlan.id

/-- What creates the binding. -/
def createBinding : Binding.CreateBody where
  serviceId := service.id
  planId := smallPlan.id

/-- The entries to delete the instance or the binding with. -/
def entry : EntryQuery := ⟨service.id, smallPlan.id⟩

end Brokerage.Sample
