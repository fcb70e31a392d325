import Brokerage.Answer

/-!
# Calls

* `Inbound`, `BindingInbound`: a request as the transport hands it over, its ids not yet resolved.
* `Inbound.createRequest` and its siblings: the requests that hooks and services see.
* `Call`: a request of any operation.
* `AnyRequest`, `AnyResponse`: requests and responses of any operation, as traces show them.
-/

namespace Brokerage

/-- A request about an instance, as the transport hands it over. -/
structure Inbound (β : Type) where
  instanceId : String
  /-- The platform can wait for an operation in the background. -/
  asyncAccepted : Bool := false
  envelope : Envelope := {}
  body : β

/-- A request about a binding, as the transport hands it over. -/
structure BindingInbound (β : Type) extends Inbound β where
  bindingId : String

/-! ## Requests with resolved ids -/

/-- The request to create an instance. -/
def Inbound.createRequest (i : Inbound Instance.CreateBody) (service : ServiceDefinition)
    (plan : Plan) : Instance.CreateRequest where
  instanceId := i.instanceId
  serviceId := i.body.serviceId
  planId := i.body.planId
  organizationGuid := i.body.organizationGuid
  spaceGuid := i.body.spaceGuid
  context := i.body.context
  parameters := i.body.parameters
  service := service
  plan := plan
  asyncAccepted := i.asyncAccepted
  envelope := i.envelope

/-- The request to update an instance. -/
def Inbound.updateRequest (i : Inbound Instance.UpdateBody) (service : ServiceDefinition)
    (plan : Option Plan) : Instance.UpdateRequest where
  instanceId := i.instanceId
  serviceId := i.body.serviceId
  planId := i.body.planId
  previousValues := i.body.previousValues
  context := i.body.context
  parameters := i.body.parameters
  service := service
  plan := plan
  asyncAccepted := i.asyncAccepted
  envelope := i.envelope

/-- The request to delete an instance. -/
def Inbound.deleteRequest (i : Inbound EntryQuery) (service : ServiceDefinition)
    (plan : Option Plan) : Instance.DeleteRequest where
  instanceId := i.instanceId
  serviceId := i.body.serviceId
  planId := i.body.planId
  service := service
  plan := plan
  asyncAccepted := i.asyncAccepted
  envelope := i.envelope

/-- The request for an instance. -/
def Inbound.getRequest (i : Inbound Unit) : Instance.GetRequest where
  instanceId := i.instanceId
  envelope := i.envelope

/-- The request for the state of an operation on an instance. -/
def Inbound.pollRequest (i : Inbound PollQuery) (service : Option ServiceDefinition)
    (plan : Option Plan) : Instance.PollRequest where
  instanceId := i.instanceId
  serviceId := i.body.serviceId
  planId := i.body.planId
  operation := i.body.operation
  service := service
  plan := plan
  envelope := i.envelope

/-- The request to create a binding. -/
def BindingInbound.createRequest (i : BindingInbound Binding.CreateBody)
    (service : ServiceDefinition) (plan : Plan) : Binding.CreateRequest where
  instanceId := i.instanceId
  bindingId := i.bindingId
  serviceId := i.body.serviceId
  planId := i.body.planId
  appGuid := i.body.appGuid
  bindResource := i.body.bindResource
  context := i.body.context
  parameters := i.body.parameters
  service := service
  plan := plan
  asyncAccepted := i.asyncAccepted
  envelope := i.envelope

/-- The request to delete a binding. -/
def BindingInbound.deleteRequest (i : BindingInbound EntryQuery) (service : ServiceDefinition)
    (plan : Option Plan) : Binding.DeleteRequest where
  instanceId := i.instanceId
  bindingId := i.bindingId
  serviceId := i.body.serviceId
  planId := i.body.planId
  service := service
  plan := plan
  asyncAccepted := i.asyncAccepted
  envelope := i.envelope

/-- The request for a binding. -/
def BindingInbound.getRequest (i : BindingInbound Unit) : Binding.GetRequest where
  instanceId := i.instanceId
  bindingId := i.bindingId
  envelope := i.envelope

/-- The request for the state of an operation on a binding. -/
def BindingInbound.pollRequest (i : BindingInbound PollQuery)
    (service : Option ServiceDefinition) (plan : Option Plan) : Binding.PollRequest where
  instanceId := i.instanceId
  bindingId := i.bindingId
  serviceId := i.body.serviceId
  planId := i.body.planId
  operation := i.body.operation
  service := service
  plan := plan
  envelope := i.envelope

/-! ## Calls of any operation -/

/-- A request of any operation, as the transport hands it over. -/
inductive Call where
  | createInstance (i : Inbound Instance.CreateBody)
  | updateInstance (i : Inbound Instance.UpdateBody)
  | deleteInstance (i : Inbound EntryQuery)
  | getInstance (i : Inbound Unit)
  | pollInstance (i : Inbound PollQuery)
  | createBinding (i : BindingInbound Binding.CreateBody)
  | deleteBinding (i : BindingInbound EntryQuery)
  | getBinding (i : BindingInbound Unit)
  | pollBinding (i : BindingInbound PollQuery)

/-- The operation of a call. -/
def Call.operation : Call → Operation
  | createInstance _ => .createInstance
  | updateInstance _ => .updateInstance
  | deleteInstance _ => .deleteInstance
  | getInstance _ => .getInstance
  | pollInstance _ => .pollInstance
  | createBinding _ => .createBinding
  | deleteBinding _ => .deleteBinding
  | getBinding _ => .getBinding
  | pollBinding _ => .pollBinding

/-- A request that a service was given. -/
inductive AnyRequest where
  | createInstance (r : Instance.CreateRequest)
  | updateInstance (r : Instance.UpdateRequest)
  | deleteInstance (r : Instance.DeleteRequest)
  | getInstance (r : Instance.GetRequest)
  | pollInstance (r : Instance.PollRequest)
  | createBinding (r : Binding.CreateRequest)
  | deleteBinding (r : Binding.DeleteRequest)
  | getBinding (r : Binding.GetRequest)
  | pollBinding (r : Binding.PollRequest)

/-- The operation of a request. -/
def AnyRequest.operation : AnyRequest → Operation
  | createInstance _ => .createInstance
  | updateInstance _ => .updateInstance
  | deleteInstance _ => .deleteInstance
  | getInstance _ => .getInstance
  | pollInstance _ => .pollInstance
  | createBinding _ => .createBinding
  | deleteBinding _ => .deleteBinding
  | getBinding _ => .getBinding
  | pollBinding _ => .pollBinding

/-- What a request carries whatever its operation. -/
def AnyRequest.envelope : AnyRequest → Envelope
  | createInstance r => r.envelope
  | updateInstance r => r.envelope
  | deleteInstance r => r.envelope
  | getInstance r => r.envelope
  | pollInstance r => r.envelope
  | createBinding r => r.envelope
  | deleteBinding r => r.envelope
  | getBinding r => r.envelope
  | pollBinding r => r.envelope

/-- A response that a hook was shown. -/
inductive AnyResponse where
  | createInstance (r : Instance.CreateResponse)
  | updateInstance (r : Instance.UpdateResponse)
  | deleteInstance (r : Instance.DeleteResponse)
  | getInstance (r : Instance.GetResponse)
  | pollInstance (r : Instance.PollResponse)
  | createBinding (r : Binding.CreateResponse)
  | deleteBinding (r : Binding.DeleteResponse)
  | getBinding (r : Binding.GetResponse)
  | pollBinding (r : Binding.PollResponse)

instance : Wire.Writable AnyResponse where
  toJson
    | .createInstance r => Wire.encode r
    | .updateInstance r => Wire.encode r
    | .deleteInstance r => Wire.encode r
    | .getInstance r => Wire.encode r
    | .pollInstance r => Wire.encode r
    | .createBinding r => Wire.encode r
    | .deleteBinding r => Wire.encode r
    | .getBinding r => Wire.encode r
    | .pollBinding r => Wire.encode r

end Brokerage
