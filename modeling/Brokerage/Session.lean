import Brokerage.Metrics.Samples

/-!
# Sessions

A broker in use, with what its use leaves behind.

* `CallCounter`: how often a service was called, by operation.
* `InstanceRecord`, `BindingRecord`: the calls and the requests that a service has seen.
* `Ledger`: the log of the hooks, the metrics, and the records of the services.
* `Session.perform?`: a call on a session.
-/

namespace Brokerage

/-- How often a service was called, by operation. -/
abbrev CallCounter := List (Operation × Nat)

namespace CallCounter

/-- The number of calls of an operation. -/
def count (op : Operation) : CallCounter → Nat
  | [] => 0
  | (o, n) :: rest => if o = op then n else count op rest

/-- One more call of an operation. -/
def bump (op : Operation) : CallCounter → CallCounter
  | [] => [(op, 1)]
  | (o, n) :: rest => if o = op then (o, n + 1) :: rest else (o, n) :: bump op rest

/-- The number of calls of any operation. -/
def total (c : CallCounter) : Nat := c.foldr (fun e n => e.2 + n) 0

end CallCounter

/-- What a service for instances has seen. -/
structure InstanceRecord where
  calls : CallCounter := []
  created : List Instance.CreateRequest := []
  updated : List Instance.UpdateRequest := []
  deleted : List Instance.DeleteRequest := []
  polled : List Instance.PollRequest := []

/-- What a service for bindings has seen. -/
structure BindingRecord where
  calls : CallCounter := []
  created : List Binding.CreateRequest := []
  deleted : List Binding.DeleteRequest := []

/-- One more request to a service for instances. -/
def InstanceRecord.note (r : InstanceRecord) : AnyRequest → InstanceRecord
  | .createInstance q =>
    { r with calls := r.calls.bump .createInstance, created := r.created ++ [q] }
  | .updateInstance q =>
    { r with calls := r.calls.bump .updateInstance, updated := r.updated ++ [q] }
  | .deleteInstance q =>
    { r with calls := r.calls.bump .deleteInstance, deleted := r.deleted ++ [q] }
  | .getInstance _ => { r with calls := r.calls.bump .getInstance }
  | .pollInstance q =>
    { r with calls := r.calls.bump .pollInstance, polled := r.polled ++ [q] }
  | _ => r

/-- One more request to a service for bindings. -/
def BindingRecord.note (r : BindingRecord) : AnyRequest → BindingRecord
  | .createBinding q =>
    { r with calls := r.calls.bump .createBinding, created := r.created ++ [q] }
  | .deleteBinding q =>
    { r with calls := r.calls.bump .deleteBinding, deleted := r.deleted ++ [q] }
  | .getBinding _ => { r with calls := r.calls.bump .getBinding }
  | .pollBinding _ => { r with calls := r.calls.bump .pollBinding }
  | _ => r

/-- What the use of a broker leaves behind. -/
structure Ledger where
  log : FlowLog := []
  metrics : Metrics.Samples := []
  instances : InstanceRecord := {}
  bindings : BindingRecord := {}

/-- The ledger after a report. -/
def Ledger.record (l : Ledger) (r : Report) : Ledger where
  log := l.log ++ r.notes
  metrics := l.metrics.record r
  instances := r.requests.foldl InstanceRecord.note l.instances
  bindings := r.requests.foldl BindingRecord.note l.bindings

/-- A broker in use. -/
structure Session where
  broker : Broker
  ledger : Ledger := {}

namespace Session

/-- **A call on a session.** -/
def perform? (s : Session) (c : Call) : Option (Report × Session) :=
  (s.broker.perform? c).map fun r => (r, { s with ledger := s.ledger.record r })

/-- The session after a call; one that cannot be made changes nothing. -/
def after (s : Session) (c : Call) : Session :=
  match s.perform? c with
  | some (_, t) => t
  | none => s

/-- The session with an empty log. -/
def clearLog (s : Session) : Session := { s with ledger := { s.ledger with log := [] } }

/-- The session with another catalog. -/
def withCatalog (s : Session) (c : Catalog) : Session :=
  { s with broker := { s.broker with catalog := c } }

/-- The session with other hooks. -/
def withFlows (s : Session) (flows : FlowRegistries) : Session :=
  { s with broker := { s.broker with flows } }

/-- The session with another service for instances, which has seen nothing yet. -/
def withInstances (s : Session) (service : InstanceService) : Session :=
  { broker := { s.broker with instances := service },
    ledger := { s.ledger with instances := {} } }

/-- The session with another service for bindings, or none, which has seen nothing yet. -/
def withBindings (s : Session) (service : Option BindingService) : Session :=
  { broker := { s.broker with bindings := service },
    ledger := { s.ledger with bindings := {} } }

end Session

end Brokerage
