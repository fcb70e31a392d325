import Brokerage.Call
import Brokerage.Catalog.Resolver
import Brokerage.Pipeline
import Brokerage.Service

/-!
# The broker

* `Broker`: a catalog, a service for instances, perhaps one for bindings, and hooks.
* `Broker.perform?`: carries out a call; none for a call about bindings where no service keeps them.
* `Report`: the answer, what happened, and what is counted: the request, and failures of hooks.

Creations and updates need their catalog entries: without them the failure is answered at once,
before any hook. Deletions and polls make do with what they find. What is only read needs no catalog
and has no hooks.
-/

namespace Brokerage

/-- A broker. -/
structure Broker where
  catalog : Catalog
  instances : InstanceService
  bindings : Option BindingService := none
  flows : FlowRegistries := {}

/-- What happens during a call. -/
abbrev TraceEvent := Event AnyRequest AnyResponse

/-- What a call comes to. -/
structure Report where
  operation : Operation
  answer : Answer AnyResponse
  trace : List TraceEvent
  /-- The requests that are counted: of which operation, answered with which status. -/
  counted : List (Operation × Nat)
  /-- How many failures of hooks of which phase are counted. -/
  flowFailures : List (FlowPhase × Nat)

namespace Report

/-- The report of an answer. The request is counted with its status. -/
def ofAnswer (op : Operation) (answer : Answer AnyResponse) (trace : List TraceEvent)
    (flowFailures : List (FlowPhase × Nat)) : Report :=
  ⟨op, answer, trace, [(op, answer.status)], flowFailures⟩

/-- The report of a call that fails before any hook. -/
def ofFailure (op : Operation) (f : Failure) : Report := .ofAnswer op (.ofFailure op f) [] []

/-- The report of an operation that was carried out. -/
def ofRun [Response ρ] (op : Operation) (request : α → AnyRequest) (response : ρ → AnyResponse)
    (run : Run α ρ) : Report :=
  .ofAnswer op ((Answer.ofOutcome op run.outcome).map response)
    (run.trace.map (·.map request response)) run.flowFailures

/-- The notes that the hooks of a call leave in their log. -/
def notes (r : Report) : List FlowNote := r.trace.filterMap (·.note?)

/-- The requests that the service of a call was given. -/
def requests (r : Report) : List AnyRequest :=
  r.trace.filterMap fun
    | .service request => some request
    | _ => none

end Report

namespace Broker

/-! ## Instances -/

/-- Creates an instance. -/
def createInstance (b : Broker) (i : Inbound Instance.CreateBody) : Report :=
  match b.catalog.require i.body.serviceId i.body.planId with
  | .error f => .ofFailure .createInstance f
  | .ok (service, plan) =>
    .ofRun .createInstance .createInstance .createInstance
      (Pipeline.run b.flows.createInstance
        (consult b.instances.create (i.createRequest service plan)))

/-- Updates an instance. -/
def updateInstance (b : Broker) (i : Inbound Instance.UpdateBody) : Report :=
  match b.catalog.requireOptionalPlan i.body.serviceId i.body.planId with
  | .error f => .ofFailure .updateInstance f
  | .ok (service, plan) =>
    .ofRun .updateInstance .updateInstance .updateInstance
      (Pipeline.run b.flows.updateInstance
        (consult b.instances.update (i.updateRequest service plan)))

/-- Deletes an instance. -/
def deleteInstance (b : Broker) (i : Inbound EntryQuery) : Report :=
  let (service, plan) := b.catalog.tolerate i.body.serviceId i.body.planId
  .ofRun .deleteInstance .deleteInstance .deleteInstance
    (Pipeline.run b.flows.deleteInstance
      (consult b.instances.delete (i.deleteRequest service plan)))

/-- Reads an instance. -/
def getInstance (b : Broker) (i : Inbound Unit) : Report :=
  .ofRun .getInstance .getInstance .getInstance
    (Pipeline.plain (consultIfOffered "get service instance" b.instances.get i.getRequest))

/-- Asks after the last operation on an instance. -/
def pollInstance (b : Broker) (i : Inbound PollQuery) : Report :=
  let (service, plan) := b.catalog.bestEffort i.body.serviceId i.body.planId
  .ofRun .pollInstance .pollInstance .pollInstance
    (Pipeline.run b.flows.pollInstance
      (consultIfOffered "last operation" b.instances.poll (i.pollRequest service plan)))

/-! ## Bindings -/

/-- Creates a binding. -/
def createBinding (b : Broker) (s : BindingService) (i : BindingInbound Binding.CreateBody) :
    Report :=
  match b.catalog.require i.body.serviceId i.body.planId with
  | .error f => .ofFailure .createBinding f
  | .ok (service, plan) =>
    .ofRun .createBinding .createBinding .createBinding
      (Pipeline.run b.flows.createBinding (consult s.create (i.createRequest service plan)))

/-- Deletes a binding. -/
def deleteBinding (b : Broker) (s : BindingService) (i : BindingInbound EntryQuery) : Report :=
  let (service, plan) := b.catalog.tolerate i.body.serviceId i.body.planId
  .ofRun .deleteBinding .deleteBinding .deleteBinding
    (Pipeline.run b.flows.deleteBinding (consult s.delete (i.deleteRequest service plan)))

/-- Reads a binding. -/
def getBinding (s : BindingService) (i : BindingInbound Unit) : Report :=
  .ofRun .getBinding .getBinding .getBinding
    (Pipeline.plain (consultIfOffered "get service instance binding" s.get i.getRequest))

/-- Asks after the last operation on a binding. -/
def pollBinding (b : Broker) (s : BindingService) (i : BindingInbound PollQuery) : Report :=
  let (service, plan) := b.catalog.bestEffort i.body.serviceId i.body.planId
  .ofRun .pollBinding .pollBinding .pollBinding
    (Pipeline.run b.flows.pollBinding
      (consultIfOffered "last binding operation" s.poll (i.pollRequest service plan)))

/-! ## Calls -/

/-- **Carries out a call.** -/
def perform? (b : Broker) : Call → Option Report
  | .createInstance i => some (b.createInstance i)
  | .updateInstance i => some (b.updateInstance i)
  | .deleteInstance i => some (b.deleteInstance i)
  | .getInstance i => some (b.getInstance i)
  | .pollInstance i => some (b.pollInstance i)
  | .createBinding i => b.bindings.map fun s => b.createBinding s i
  | .deleteBinding i => b.bindings.map fun s => b.deleteBinding s i
  | .getBinding i => b.bindings.map fun s => getBinding s i
  | .pollBinding i => b.bindings.map fun s => b.pollBinding s i

/-- The text of a broker in diagnostics. -/
def describe (b : Broker) : String :=
  let parts := "resolver: CatalogResolver \x7b .. \x7d, flows: " ++ b.flows.describe ++ ", .. \x7d"
  "ServiceBroker \x7b resolver: CatalogResolver \x7b .. \x7d, " ++
    "instances: InstanceOrchestrator \x7b " ++ parts ++ ", bindings: " ++
    (match b.bindings with
      | none => "None"
      | some _ => "Some(BindingOrchestrator \x7b " ++ parts ++ ")") ++ " \x7d"

end Broker

end Brokerage
