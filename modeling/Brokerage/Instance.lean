import Brokerage.Catalog.Basic
import Brokerage.Envelope

/-!
# Requests and responses about instances

For each operation on instances: the body that the platform sends, the request that hooks and
service see, and the response. The flags of a response steer the status of the answer and are not
part of its message.
-/

namespace Brokerage.Instance

open Wire (Shape Message)

/-! ## Create -/

/-- What a platform sends to create an instance. -/
structure CreateBody where
  serviceId : String
  planId : String
  organizationGuid : Option String := none
  spaceGuid : Option String := none
  context : Option Json.Members := none
  parameters : Json.Members := []

/-- A request to create an instance. -/
structure CreateRequest where
  instanceId : String
  serviceId : String
  planId : String
  organizationGuid : Option String
  spaceGuid : Option String
  context : Option Json.Members
  parameters : Json.Members
  service : ServiceDefinition
  plan : Plan
  asyncAccepted : Bool
  envelope : Envelope

/-- The response to a request to create an instance. -/
structure CreateResponse where
  /-- The service goes on in the background. -/
  isAsync : Bool := false
  /-- The instance was there before. -/
  existed : Bool := false
  dashboardUrl : Option String := none
  operation : Option String := none
  metadata : Option Json.Members := none

instance : Inhabited CreateResponse := ⟨{}⟩

instance : Message CreateBody where
  shape := .record "CreateServiceInstanceBody" <|
    .cons "service_id" .text .required <|
    .cons "plan_id" .text .required <|
    .cons "organization_guid" (.optional .text) .filled <|
    .cons "space_guid" (.optional .text) .filled <|
    .cons "context" (.optional .object) .filled <|
    .cons "parameters" .object .filled .nil
  ofValue := fun (serviceId, planId, organizationGuid, spaceGuid, context, parameters, _) =>
    ⟨serviceId, planId, organizationGuid, spaceGuid, context, parameters⟩
  toValue := fun b =>
    (b.serviceId, b.planId, b.organizationGuid, b.spaceGuid, b.context, b.parameters, ())

instance : Message CreateResponse where
  shape := .record "CreateServiceInstanceResponse" <|
    .cons "dashboard_url" (.optional .text) .skipped <|
    .cons "operation" (.optional .text) .skipped <|
    .cons "metadata" (.optional .object) .skipped .nil
  ofValue := fun (dashboardUrl, operation, metadata, _) =>
    ⟨false, false, dashboardUrl, operation, metadata⟩
  toValue := fun r => (r.dashboardUrl, r.operation, r.metadata, ())

/-! ## Update -/

/-- What an instance was before an update. -/
structure PreviousValues where
  serviceId : Option String := none
  planId : Option String := none
  organizationId : Option String := none
  spaceId : Option String := none
deriving DecidableEq, Repr

/-- What a platform sends to update an instance. -/
structure UpdateBody where
  serviceId : String
  planId : Option String := none
  previousValues : Option PreviousValues := none
  context : Option Json.Members := none
  parameters : Json.Members := []

/-- A request to update an instance. -/
structure UpdateRequest where
  instanceId : String
  serviceId : String
  planId : Option String
  previousValues : Option PreviousValues
  context : Option Json.Members
  parameters : Json.Members
  service : ServiceDefinition
  plan : Option Plan
  asyncAccepted : Bool
  envelope : Envelope

/-- The response to a request to update an instance. -/
structure UpdateResponse where
  /-- The service goes on in the background. -/
  isAsync : Bool := false
  dashboardUrl : Option String := none
  operation : Option String := none

instance : Inhabited UpdateResponse := ⟨{}⟩

instance : Message PreviousValues where
  shape := .record "PreviousValues" <|
    .cons "service_id" (.optional .text) .filled <|
    .cons "plan_id" (.optional .text) .filled <|
    .cons "organization_id" (.optional .text) .filled <|
    .cons "space_id" (.optional .text) .filled .nil
  ofValue := fun (serviceId, planId, organizationId, spaceId, _) =>
    ⟨serviceId, planId, organizationId, spaceId⟩
  toValue := fun p => (p.serviceId, p.planId, p.organizationId, p.spaceId, ())

instance : Message UpdateBody where
  shape := .record "UpdateServiceInstanceBody" <|
    .cons "service_id" .text .required <|
    .cons "plan_id" (.optional .text) .filled <|
    .cons "previous_values" (.optional (Message.shape PreviousValues)) .filled <|
    .cons "context" (.optional .object) .filled <|
    .cons "parameters" .object .filled .nil
  ofValue := fun (serviceId, planId, previousValues, context, parameters, _) =>
    ⟨serviceId, planId, previousValues.map Message.ofValue, context, parameters⟩
  toValue := fun b =>
    (b.serviceId, b.planId, b.previousValues.map Message.toValue, b.context, b.parameters, ())
  toValue_ofValue := by
    rintro ⟨serviceId, planId, previousValues, context, parameters, -⟩
    simp only [Message.map_optional]

instance : Message UpdateResponse where
  shape := .record "UpdateServiceInstanceResponse" <|
    .cons "dashboard_url" (.optional .text) .skipped <|
    .cons "operation" (.optional .text) .skipped .nil
  ofValue := fun (dashboardUrl, operation, _) => ⟨false, dashboardUrl, operation⟩
  toValue := fun r => (r.dashboardUrl, r.operation, ())

/-! ## Delete -/

/-- A request to delete an instance. -/
structure DeleteRequest where
  instanceId : String
  serviceId : String
  planId : String
  service : ServiceDefinition
  plan : Option Plan
  asyncAccepted : Bool
  envelope : Envelope

/-- The response to a request to delete an instance. -/
structure DeleteResponse where
  /-- The service goes on in the background. -/
  isAsync : Bool := false
  operation : Option String := none
deriving DecidableEq, Repr

instance : Inhabited DeleteResponse := ⟨{}⟩

instance : Message DeleteResponse where
  shape := .record "DeleteServiceInstanceResponse" <|
    .cons "operation" (.optional .text) .skipped .nil
  ofValue := fun (operation, _) => ⟨false, operation⟩
  toValue := fun r => (r.operation, ())

/-! ## Get -/

/-- A request for an instance. -/
structure GetRequest where
  instanceId : String
  envelope : Envelope

/-- The response to a request for an instance. -/
structure GetResponse where
  serviceId : Option String := none
  planId : Option String := none
  dashboardUrl : Option String := none
  parameters : Option Json.Members := none

instance : Inhabited GetResponse := ⟨{}⟩

instance : Message GetResponse where
  shape := .record "GetServiceInstanceResponse" <|
    .cons "service_id" (.optional .text) .skipped <|
    .cons "plan_id" (.optional .text) .skipped <|
    .cons "dashboard_url" (.optional .text) .skipped <|
    .cons "parameters" (.optional .object) .skipped .nil
  ofValue := fun (serviceId, planId, dashboardUrl, parameters, _) =>
    ⟨serviceId, planId, dashboardUrl, parameters⟩
  toValue := fun r => (r.serviceId, r.planId, r.dashboardUrl, r.parameters, ())

/-! ## Poll -/

/-- A request for the state of the last operation on an instance. -/
structure PollRequest where
  instanceId : String
  serviceId : Option String
  planId : Option String
  operation : Option String
  service : Option ServiceDefinition
  plan : Option Plan
  envelope : Envelope

/-- The state of the last operation on an instance. -/
structure PollResponse where
  state : OperationState := .inProgress
  description : Option String := none
  /-- The operation deletes the instance. -/
  isDelete : Bool := false
  instanceUsable : Option Bool := none
  updateRepeatable : Option Bool := none
deriving DecidableEq, Repr

instance : Inhabited PollResponse := ⟨{}⟩

instance : Message PollResponse where
  shape := .record "GetLastServiceOperationResponse" <|
    .cons "state" .state .required <|
    .cons "description" (.optional .text) .skipped <|
    .cons "instance_usable" (.optional (.flag false)) .skipped <|
    .cons "update_repeatable" (.optional (.flag false)) .skipped .nil
  ofValue := fun (state, description, instanceUsable, updateRepeatable, _) =>
    ⟨state, description, false, instanceUsable, updateRepeatable⟩
  toValue := fun r => (r.state, r.description, r.instanceUsable, r.updateRepeatable, ())

end Brokerage.Instance
