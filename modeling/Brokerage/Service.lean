import Brokerage.Answer

/-!
# Services

The business behind a broker. A service answers requests; what it does meanwhile is not modelled.

* `InstanceService`, `BindingService`: what a service can be asked. Reads and polls may be left out.
* `Consultation`: what becomes of a request on its way to a service. An operation that is left out
  fails with status 400 and the service does not hear of it.
* `InstanceService.minimal`, `BindingService.minimal`: services that do what has to be done and
  nothing else.
* `InstanceService.scripted`, `BindingService.scripted`: services whose outcomes are fixed.
-/

namespace Brokerage

/-- What becomes of a request on its way to a service. -/
inductive Consultation (α ρ : Type) where
  /-- The service was given the request. -/
  | asked (request : α) (outcome : Outcome ρ)
  /-- The service does not offer the operation. -/
  | notOffered (failure : Failure)

/-- The outcome of an operation as far as the service decides it. -/
def Consultation.outcome : Consultation α ρ → Outcome ρ
  | asked _ outcome => outcome
  | notOffered failure => .error failure

/-- Gives a request to a service. -/
def consult (service : α → Outcome ρ) (request : α) : Consultation α ρ :=
  .asked request (service request)

/-- The failure of an operation that a service does not offer. -/
def Failure.notOffered (name : String) : Failure :=
  .unclassified (name ++ " operation not supported") none (some 400)

/-- Gives a request to a service that may have left out the operation. -/
def consultIfOffered (name : String) (service : Option (α → Outcome ρ)) (request : α) :
    Consultation α ρ :=
  match service with
  | some service => consult service request
  | none => .notOffered (.notOffered name)

/-- A service that keeps instances. -/
structure InstanceService where
  create : Instance.CreateRequest → Outcome Instance.CreateResponse
  update : Instance.UpdateRequest → Outcome Instance.UpdateResponse
  delete : Instance.DeleteRequest → Outcome Instance.DeleteResponse
  get : Option (Instance.GetRequest → Outcome Instance.GetResponse) := none
  poll : Option (Instance.PollRequest → Outcome Instance.PollResponse) := none

/-- A service that keeps bindings. -/
structure BindingService where
  create : Binding.CreateRequest → Outcome Binding.CreateResponse
  delete : Binding.DeleteRequest → Outcome Binding.DeleteResponse
  get : Option (Binding.GetRequest → Outcome Binding.GetResponse) := none
  poll : Option (Binding.PollRequest → Outcome Binding.PollResponse) := none

/-- A service that creates, updates and deletes instances without a word. -/
def InstanceService.minimal : InstanceService where
  create _ := .ok none
  update _ := .ok none
  delete _ := .ok none

/-- A service that creates and deletes bindings without a word. -/
def BindingService.minimal : BindingService where
  create _ := .ok none
  delete _ := .ok none

/-- The outcomes of a scripted service for instances. -/
structure InstanceScript where
  create : Outcome Instance.CreateResponse := .ok (some {})
  update : Outcome Instance.UpdateResponse := .ok (some {})
  delete : Outcome Instance.DeleteResponse := .ok (some {})
  get : Outcome Instance.GetResponse := .ok (some {})
  poll : Outcome Instance.PollResponse := .ok (some { state := .succeeded })

/-- The outcomes of a scripted service for bindings. -/
structure BindingScript where
  create : Outcome Binding.CreateResponse := .ok (some {})
  delete : Outcome Binding.DeleteResponse := .ok (some {})
  get : Outcome Binding.GetResponse := .ok (some {})
  poll : Outcome Binding.PollResponse := .ok (some { state := .succeeded })

/-- A service for instances whose outcomes are fixed. -/
def InstanceService.scripted (s : InstanceScript) : InstanceService where
  create _ := s.create
  update _ := s.update
  delete _ := s.delete
  get := some fun _ => s.get
  poll := some fun _ => s.poll

/-- A service for bindings whose outcomes are fixed. -/
def BindingService.scripted (s : BindingScript) : BindingService where
  create _ := s.create
  delete _ := s.delete
  get := some fun _ => s.get
  poll := some fun _ => s.poll

end Brokerage
