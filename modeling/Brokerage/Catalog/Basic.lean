import Brokerage.Wire.Shape

/-!
# The catalog

What a broker offers: services, and the plans of each.

* `Plan`, `ServiceDefinition`, `Catalog`, with the schemas that describe a plan's parameters.
* `ServiceDefinition.plan?`: the first plan with an id.
* `Catalog.service?`: the last service with an id.
-/

namespace Brokerage

open Wire (Shape Fields Message)

/-- The parameters that one operation takes, as a JSON schema. -/
structure MethodSchema where
  parameters : Json.Members := []

/-- The parameters of operations on instances. -/
structure InstanceSchemas where
  create : Option MethodSchema := none
  update : Option MethodSchema := none

/-- The parameters of operations on bindings. -/
structure BindingSchemas where
  create : Option MethodSchema := none

/-- The parameters that a plan takes. -/
structure Schemas where
  instances : Option InstanceSchemas := none
  bindings : Option BindingSchemas := none

/-- A plan of a service. -/
structure Plan where
  id : String
  name : String
  description : String
  metadata : Json.Members := []
  /-- Takes the place of the service's own flag. -/
  bindable : Option Bool := none
  free : Bool := true
  schemas : Option Schemas := none

/-- A service that the broker offers. -/
structure ServiceDefinition where
  id : String
  name : String
  description : String
  bindable : Bool := false
  planUpdateable : Option Bool := none
  instancesRetrievable : Bool := false
  bindingsRetrievable : Bool := false
  tags : List String := []
  metadata : Json.Members := []
  plans : List Plan := []

/-- All services that the broker offers. -/
structure Catalog where
  services : List ServiceDefinition := []

/-! ## Building a catalog -/

/-- The plan, free of charge or not. -/
def Plan.withFree (p : Plan) (free : Bool) : Plan := { p with free }

/-- The plan with a flag of its own. -/
def Plan.withBindable (p : Plan) (bindable : Bool) : Plan := { p with bindable := some bindable }

/-- The plan with schemas for its parameters. -/
def Plan.withSchemas (p : Plan) (schemas : Schemas) : Plan := { p with schemas := some schemas }

/-- The service, bindable or not. -/
def ServiceDefinition.withBindable (d : ServiceDefinition) (bindable : Bool) : ServiceDefinition :=
  { d with bindable }

/-- The service with one more plan behind its others. -/
def ServiceDefinition.withPlan (d : ServiceDefinition) (plan : Plan) : ServiceDefinition :=
  { d with plans := d.plans ++ [plan] }

/-- Stands in for a service that is no longer offered. -/
def ServiceDefinition.placeholder : ServiceDefinition where
  id := ""
  name := ""
  description := ""

/-! ## Looking things up -/

/-- The first plan with the id. -/
def ServiceDefinition.plan? (d : ServiceDefinition) (id : String) : Option Plan :=
  d.plans.find? (·.id == id)

/-- The last service with the id. -/
def Catalog.service? (c : Catalog) (id : String) : Option ServiceDefinition :=
  c.services.reverse.find? (·.id == id)

/-! ## Messages -/

instance : Message MethodSchema where
  shape := .record "MethodSchema" <| .cons "parameters" .object .filled .nil
  ofValue := fun (parameters, _) => ⟨parameters⟩
  toValue := fun s => (s.parameters, ())

instance : Message InstanceSchemas where
  shape := .record "ServiceInstanceSchema" <|
    .cons "create" (.optional (Message.shape MethodSchema)) .skipped <|
    .cons "update" (.optional (Message.shape MethodSchema)) .skipped .nil
  ofValue := fun (create, update, _) =>
    ⟨create.map Message.ofValue, update.map Message.ofValue⟩
  toValue := fun s => (s.create.map Message.toValue, s.update.map Message.toValue, ())
  toValue_ofValue := by
    rintro ⟨create, update, -⟩
    simp only [Message.map_optional]

instance : Message BindingSchemas where
  shape := .record "ServiceBindingSchema" <|
    .cons "create" (.optional (Message.shape MethodSchema)) .skipped .nil
  ofValue := fun (create, _) => ⟨create.map Message.ofValue⟩
  toValue := fun s => (s.create.map Message.toValue, ())
  toValue_ofValue := by
    rintro ⟨create, -⟩
    simp only [Message.map_optional]

instance : Message Schemas where
  shape := .record "Schemas" <|
    .cons "service_instance" (.optional (Message.shape InstanceSchemas)) .skipped <|
    .cons "service_binding" (.optional (Message.shape BindingSchemas)) .skipped .nil
  ofValue := fun (instances, bindings, _) =>
    ⟨instances.map Message.ofValue, bindings.map Message.ofValue⟩
  toValue := fun s => (s.instances.map Message.toValue, s.bindings.map Message.toValue, ())
  toValue_ofValue := by
    rintro ⟨instances, bindings, -⟩
    simp only [Message.map_optional]

instance : Message Plan where
  shape := .record "Plan" <|
    .cons "id" .text .required <|
    .cons "name" .text .required <|
    .cons "description" .text .required <|
    .cons "metadata" .object .filled <|
    .cons "bindable" (.optional (.flag false)) .sparse <|
    .cons "free" (.flag true) .filled <|
    .cons "schemas" (.optional (Message.shape Schemas)) .sparse .nil
  ofValue := fun (id, name, description, metadata, bindable, free, schemas, _) =>
    ⟨id, name, description, metadata, bindable, free, schemas.map Message.ofValue⟩
  toValue := fun p =>
    (p.id, p.name, p.description, p.metadata, p.bindable, p.free, p.schemas.map Message.toValue, ())
  toValue_ofValue := by
    rintro ⟨id, name, description, metadata, bindable, free, schemas, -⟩
    simp only [Message.map_optional]

instance : Message ServiceDefinition where
  shape := .record "ServiceDefinition" <|
    .cons "id" .text .required <|
    .cons "name" .text .required <|
    .cons "description" .text .required <|
    .cons "bindable" (.flag false) .filled <|
    .cons "plan_updateable" (.optional (.flag false)) .sparse <|
    .cons "instances_retrievable" (.flag false) .filled <|
    .cons "bindings_retrievable" (.flag false) .filled <|
    .cons "tags" (.list .text) .sparse <|
    .cons "metadata" .object .filled <|
    .cons "plans" (.list (Message.shape Plan)) .filled .nil
  ofValue := fun (id, name, description, bindable, planUpdateable, instancesRetrievable,
      bindingsRetrievable, tags, metadata, plans, _) =>
    ⟨id, name, description, bindable, planUpdateable, instancesRetrievable, bindingsRetrievable,
      tags, metadata, plans.map Message.ofValue⟩
  toValue := fun d =>
    (d.id, d.name, d.description, d.bindable, d.planUpdateable, d.instancesRetrievable,
      d.bindingsRetrievable, d.tags, d.metadata, d.plans.map Message.toValue, ())
  toValue_ofValue := by
    rintro ⟨id, name, description, bindable, planUpdateable, instancesRetrievable, bindingsRetrievable,
      tags, metadata, plans, -⟩
    simp only [Message.map_list]

instance : Message Catalog where
  shape := .record "Catalog" <|
    .cons "services" (.list (Message.shape ServiceDefinition)) .required .nil
  ofValue := fun (services, _) => ⟨services.map Message.ofValue⟩
  toValue := fun c => (c.services.map Message.toValue, ())
  toValue_ofValue := by
    rintro ⟨services, -⟩
    simp only [Message.map_list]

end Brokerage
