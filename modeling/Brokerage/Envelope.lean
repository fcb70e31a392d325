import Brokerage.Wire.OfJson
import Brokerage.Failure

/-!
# What comes with a request

* `OriginatingIdentity`: the user of the platform on whose behalf a request is made.
* `Envelope`: what a request carries whatever its operation.
* `EntryQuery`, `PollQuery`: what the requests without a body say about their service.
* `Parameters.as`: the parameters of a request, read as a message.
-/

namespace Brokerage

open Wire (Shape Message)

/-- A user of the platform. -/
structure OriginatingIdentity where
  platform : String
  properties : Json.Members

/-- What a request carries whatever its operation. -/
structure Envelope where
  platformInstanceId : Option String := none
  apiInfoLocation : Option String := none
  originatingIdentity : Option OriginatingIdentity := none
  requestIdentity : Option String := none

/-- The catalog entries of a resource to delete. -/
structure EntryQuery where
  serviceId : String
  planId : String
deriving DecidableEq, Repr

/-- What a poll knows about the operation it asks after. -/
structure PollQuery where
  serviceId : Option String := none
  planId : Option String := none
  operation : Option String := none
deriving DecidableEq, Repr

instance : Message OriginatingIdentity where
  shape := .record "OriginatingIdentity" <|
    .cons "platform" .text .required <| .cons "properties" .object .required .nil
  ofValue := fun (platform, properties, _) => ⟨platform, properties⟩
  toValue := fun i => (i.platform, i.properties, ())

instance : Message EntryQuery where
  shape := .record "DeleteQuery" <|
    .cons "service_id" .text .required <| .cons "plan_id" .text .required .nil
  ofValue := fun (serviceId, planId, _) => ⟨serviceId, planId⟩
  toValue := fun q => (q.serviceId, q.planId, ())

instance : Message PollQuery where
  shape := .record "LastOperationQuery" <|
    .cons "service_id" (.optional .text) .required <|
    .cons "plan_id" (.optional .text) .required <|
    .cons "operation" (.optional .text) .required .nil
  ofValue := fun (serviceId, planId, operation, _) => ⟨serviceId, planId, operation⟩
  toValue := fun q => (q.serviceId, q.planId, q.operation, ())

instance : Message OperationState where
  shape := .state
  ofValue := id
  toValue := id

/-- Reads the parameters of a request as a message. `target` names the message in the complaint. -/
def Parameters.as (α : Type) [Message α] (target : String) (parameters : Json.Members) :
    Except Failure α :=
  match Wire.decode α (.object parameters) with
  | .ok a => .ok a
  | .error issue =>
    .error (.invalidParameters
      ("Error mapping parameters to " ++ target ++ ": " ++ issue.message))

end Brokerage
