import Brokerage.Catalog.Basic
import Brokerage.Envelope

/-!
# Requests and responses about bindings

For each operation on bindings: the body that the platform sends, the request that hooks and
service see, and the response. The flags of a response steer the status of the answer and are not
part of its message.
-/

namespace Brokerage.Binding

open Wire (Shape Message)

/-! ## Create -/

/-- What a binding is for: an application or a route. -/
structure BindResource where
  appGuid : Option String := none
  route : Option String := none
deriving DecidableEq, Repr

/-- What a platform sends to create a binding. -/
structure CreateBody where
  serviceId : String
  planId : String
  appGuid : Option String := none
  bindResource : Option BindResource := none
  context : Option Json.Members := none
  parameters : Json.Members := []

/-- A request to create a binding. -/
structure CreateRequest where
  instanceId : String
  bindingId : String
  serviceId : String
  planId : String
  appGuid : Option String
  bindResource : Option BindResource
  context : Option Json.Members
  parameters : Json.Members
  service : ServiceDefinition
  plan : Plan
  asyncAccepted : Bool
  envelope : Envelope

/-- A volume that a binding mounts into an application. -/
structure VolumeMount where
  driver : String
  containerDir : String
  mode : String
  deviceType : String
  device : Json.Members

/-- The response to a request to create a binding. -/
structure CreateResponse where
  /-- The service goes on in the background. -/
  isAsync : Bool := false
  /-- The binding was there before. -/
  existed : Bool := false
  credentials : Option Json.Members := none
  syslogDrainUrl : Option String := none
  routeServiceUrl : Option String := none
  volumeMounts : List VolumeMount := []
  operation : Option String := none

instance : Inhabited CreateResponse := ⟨{}⟩

instance : Message BindResource where
  shape := .record "BindResource" <|
    .cons "app_guid" (.optional .text) .sparse <|
    .cons "route" (.optional .text) .sparse .nil
  ofValue := fun (appGuid, route, _) => ⟨appGuid, route⟩
  toValue := fun b => (b.appGuid, b.route, ())

instance : Message CreateBody where
  shape := .record "CreateServiceInstanceBindingBody" <|
    .cons "service_id" .text .required <|
    .cons "plan_id" .text .required <|
    .cons "app_guid" (.optional .text) .filled <|
    .cons "bind_resource" (.optional (Message.shape BindResource)) .filled <|
    .cons "context" (.optional .object) .filled <|
    .cons "parameters" .object .filled .nil
  ofValue := fun (serviceId, planId, appGuid, bindResource, context, parameters, _) =>
    ⟨serviceId, planId, appGuid, bindResource.map Message.ofValue, context, parameters⟩
  toValue := fun b =>
    (b.serviceId, b.planId, b.appGuid, b.bindResource.map Message.toValue, b.context,
      b.parameters, ())
  toValue_ofValue := by
    rintro ⟨serviceId, planId, appGuid, bindResource, context, parameters, -⟩
    simp only [Message.map_optional]

instance : Message VolumeMount where
  shape := .record "VolumeMount" <|
    .cons "driver" .text .required <|
    .cons "container_dir" .text .required <|
    .cons "mode" .text .required <|
    .cons "device_type" .text .required <|
    .cons "device" .object .required .nil
  ofValue := fun (driver, containerDir, mode, deviceType, device, _) =>
    ⟨driver, containerDir, mode, deviceType, device⟩
  toValue := fun v => (v.driver, v.containerDir, v.mode, v.deviceType, v.device, ())

instance : Message CreateResponse where
  shape := .record "CreateServiceInstanceBindingResponse" <|
    .cons "credentials" (.optional .object) .skipped <|
    .cons "syslog_drain_url" (.optional .text) .skipped <|
    .cons "route_service_url" (.optional .text) .skipped <|
    .cons "volume_mounts" (.list (Message.shape VolumeMount)) .sparse <|
    .cons "operation" (.optional .text) .skipped .nil
  ofValue := fun (credentials, syslogDrainUrl, routeServiceUrl, volumeMounts, operation, _) =>
    ⟨false, false, credentials, syslogDrainUrl, routeServiceUrl, volumeMounts.map Message.ofValue,
      operation⟩
  toValue := fun r =>
    (r.credentials, r.syslogDrainUrl, r.routeServiceUrl, r.volumeMounts.map Message.toValue,
      r.operation, ())
  toValue_ofValue := by
    rintro ⟨credentials, syslogDrainUrl, routeServiceUrl, volumeMounts, operation, -⟩
    simp only [Message.map_list]

/-! ## Delete -/

/-- A request to delete a binding. -/
structure DeleteRequest where
  instanceId : String
  bindingId : String
  serviceId : String
  planId : String
  service : ServiceDefinition
  plan : Option Plan
  asyncAccepted : Bool
  envelope : Envelope

/-- The response to a request to delete a binding. -/
structure DeleteResponse where
  /-- The service goes on in the background. -/
  isAsync : Bool := false
  operation : Option String := none
deriving DecidableEq, Repr

instance : Inhabited DeleteResponse := ⟨{}⟩

instance : Message DeleteResponse where
  shape := .record "DeleteServiceInstanceBindingResponse" <|
    .cons "operation" (.optional .text) .skipped .nil
  ofValue := fun (operation, _) => ⟨false, operation⟩
  toValue := fun r => (r.operation, ())

/-! ## Get -/

/-- A request for a binding. -/
structure GetRequest where
  instanceId : String
  bindingId : String
  envelope : Envelope

/-- The response to a request for a binding. -/
structure GetResponse where
  credentials : Option Json.Members := none
  syslogDrainUrl : Option String := none
  routeServiceUrl : Option String := none
  volumeMounts : List VolumeMount := []
  parameters : Option Json.Members := none

instance : Inhabited GetResponse := ⟨{}⟩

instance : Message GetResponse where
  shape := .record "GetServiceInstanceBindingResponse" <|
    .cons "credentials" (.optional .object) .skipped <|
    .cons "syslog_drain_url" (.optional .text) .skipped <|
    .cons "route_service_url" (.optional .text) .skipped <|
    .cons "volume_mounts" (.list (Message.shape VolumeMount)) .sparse <|
    .cons "parameters" (.optional .object) .skipped .nil
  ofValue := fun (credentials, syslogDrainUrl, routeServiceUrl, volumeMounts, parameters, _) =>
    ⟨credentials, syslogDrainUrl, routeServiceUrl, volumeMounts.map Message.ofValue, parameters⟩
  toValue := fun r =>
    (r.credentials, r.syslogDrainUrl, r.routeServiceUrl, r.volumeMounts.map Message.toValue,
      r.parameters, ())
  toValue_ofValue := by
    rintro ⟨credentials, syslogDrainUrl, routeServiceUrl, volumeMounts, parameters, -⟩
    simp only [Message.map_list]

/-! ## Poll -/

/-- A request for the state of the last operation on a binding. -/
structure PollRequest where
  instanceId : String
  bindingId : String
  serviceId : Option String
  planId : Option String
  operation : Option String
  service : Option ServiceDefinition
  plan : Option Plan
  envelope : Envelope

/-- The state of the last operation on a binding. -/
structure PollResponse where
  state : OperationState := .inProgress
  description : Option String := none
  /-- The operation deletes the binding. -/
  isDelete : Bool := false
deriving DecidableEq, Repr

instance : Inhabited PollResponse := ⟨{}⟩

instance : Message PollResponse where
  shape := .record "GetLastServiceBindingOperationResponse" <|
    .cons "state" .state .required <|
    .cons "description" (.optional .text) .skipped .nil
  ofValue := fun (state, description, _) => ⟨state, description, false⟩
  toValue := fun r => (r.state, r.description, ())

end Brokerage.Binding
