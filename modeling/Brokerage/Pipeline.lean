import Brokerage.Flow.Log
import Brokerage.Service

/-!
# The pipeline of an operation

* `Event`: what happens while an operation is carried out.
* `Pipeline.run`: hooks, service, hooks, and after a failure the hooks for failures.
* `Run`: the events, the outcome, and the failures of hooks that are counted.

The failures that are counted are told from the outcome: one of the phase of an outermost hook
wrapper, and one for each hook that fails after a failure.
-/

namespace Brokerage

/-- What happens while an operation is carried out. -/
inductive Event (α ρ : Type) where
  | initialization (hook : String)
  /-- The service is given the request. -/
  | service (request : α)
  /-- A hook sees the response, the default one where the service had nothing to say. -/
  | completion (hook : String) (response : ρ)
  | error (hook : String) (failure : Failure)

/-- The event in terms of other requests and responses. -/
def Event.map (f : α → β) (g : ρ → σ) : Event α ρ → Event β σ
  | initialization hook => .initialization hook
  | service request => .service (f request)
  | completion hook response => .completion hook (g response)
  | error hook failure => .error hook failure

/-- The note that the event leaves in the log of the hooks. -/
def Event.note? : Event α ρ → Option FlowNote
  | initialization hook => some (.initialization hook)
  | service _ => none
  | completion hook _ => some (.completion hook)
  | error hook failure => some (.error hook failure)

/-- A phase of hooks. -/
inductive FlowPhase where
  | initialization
  | completion
  | error
deriving DecidableEq, Repr

/-- The name of a phase in metrics. -/
def FlowPhase.name : FlowPhase → String
  | .initialization => "initialization"
  | .completion => "completion"
  | .error => "error"

/-- The phase of a hook wrapper. -/
def HookPhase.flowPhase : HookPhase → FlowPhase
  | .initialization => .initialization
  | .completion => .completion

/-- An operation that was carried out. -/
structure Run (α ρ : Type) where
  trace : List (Event α ρ)
  outcome : Outcome ρ
  /-- How many failures of hooks of which phase are counted. -/
  flowFailures : List (FlowPhase × Nat)

namespace Pipeline

/-- What is seen of a consultation. -/
def events : Consultation α ρ → List (Event α ρ)
  | .asked request _ => [.service request]
  | .notOffered _ => []

/-- The three stages before any failure is dealt with: each is reached only if the one before did
not fail. -/
def stages [Inhabited ρ] (flows : FlowRegistry) (business : Consultation α ρ) :
    List (Event α ρ) × Outcome ρ :=
  match flows.prepare (fun h => .initialization h.name) with
  | (before, .error f) => (before, .error f)
  | (before, .ok ()) =>
    match business.outcome with
    | .error f => (before ++ events business, .error f)
    | .ok response =>
      match flows.complete (fun h => .completion h.name (response.getD default)) with
      | (after, .error f) => (before ++ events business ++ after, .error f)
      | (after, .ok ()) => (before ++ events business ++ after, .ok response)

/-- The failure of a hook that an outcome tells of. -/
def hookFailure : Failure → List (FlowPhase × Nat)
  | .hook phase _ => [(phase.flowPhase, 1)]
  | _ => []

/-- Carries out an operation without hooks. -/
def plain (business : Consultation α ρ) : Run α ρ := ⟨events business, business.outcome, []⟩

/-- **Carries out an operation.** Every hook for failures runs after a failure and sees the one that
is returned; what they report is only counted. -/
def run [Inhabited ρ] (flows : FlowRegistry) (business : Consultation α ρ) : Run α ρ :=
  match stages flows business with
  | (trace, .ok response) => ⟨trace, .ok response, []⟩
  | (trace, .error f) =>
    let (notes, failed) := flows.recover fun h => Event.error h.name f
    ⟨trace ++ notes, .error f, hookFailure f ++ (if failed = 0 then [] else [(.error, failed)])⟩

end Pipeline

end Brokerage
