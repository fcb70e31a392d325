import Brokerage.Failure

/-!
# Hooks

Hooks run around a service. They note that they ran and may fail.

* `Hook`: a hook, by its name and the failure it reports, if it does.
* `FlowRegistry`: the hooks around one operation, in three phases.
* `FlowRegistries`: the seven registries of a broker.
* `FlowRegistry.prepare`, `complete`, `recover`: the three phases. The first two stop at the first
  hook that fails; the third runs every hook and counts those that fail.
-/

namespace Brokerage

/-- A hook: what it is noted as, and the failure it reports. Its verdict is a constant. A hook that
decides by the request, the response or the failure that it is shown is like one of these in each single
run; what is said of two runs is said of hooks that do not look at what they are shown. -/
structure Hook where
  name : String
  fault : Option Failure := none
deriving DecidableEq, Repr

/-- Runs hooks up to the first that fails: a note of each that ran, and the failure. -/
def Hook.runUntilFailure (note : Hook → ε) : List Hook → List ε × Option Failure
  | [] => ([], none)
  | h :: rest =>
    match h.fault with
    | some f => ([note h], some f)
    | none => (note h :: (runUntilFailure note rest).1, (runUntilFailure note rest).2)

/-- Runs every hook: a note of each, and how many fail. -/
def Hook.runEach (note : Hook → ε) : List Hook → List ε × Nat
  | [] => ([], 0)
  | h :: rest =>
    (note h :: (runEach note rest).1,
      (if h.fault.isSome then 1 else 0) + (runEach note rest).2)

/-- The hooks around one operation. -/
structure FlowRegistry where
  /-- Hooks before the service. -/
  initialization : List Hook := []
  /-- Hooks after a service that did not fail. -/
  completion : List Hook := []
  /-- Hooks after a failure. -/
  error : List Hook := []
deriving DecidableEq, Repr

namespace FlowRegistry

/-- The registry with one more hook before the service. -/
def withInitialization (r : FlowRegistry) (h : Hook) : FlowRegistry :=
  { r with initialization := r.initialization ++ [h] }

/-- The registry with one more hook after the service. -/
def withCompletion (r : FlowRegistry) (h : Hook) : FlowRegistry :=
  { r with completion := r.completion ++ [h] }

/-- The registry with one more hook after a failure. -/
def withError (r : FlowRegistry) (h : Hook) : FlowRegistry :=
  { r with error := r.error ++ [h] }

/-- The registry of three lists of hooks. -/
def ofLists (initialization completion error : List Hook) : FlowRegistry :=
  ⟨initialization, completion, error⟩

/-- The number of hooks of each phase. -/
def counts (r : FlowRegistry) : Nat × Nat × Nat :=
  (r.initialization.length, r.completion.length, r.error.length)

/-- The failure of a phase, as a failure of the request. -/
def failed (phase : HookPhase) : List ε × Option Failure → List ε × Except Failure Unit
  | (notes, some f) => (notes, .error (.hook phase f))
  | (notes, none) => (notes, .ok ())

/-- **The phase before the service.** -/
def prepare (r : FlowRegistry) (note : Hook → ε) : List ε × Except Failure Unit :=
  failed .initialization (Hook.runUntilFailure note r.initialization)

/-- **The phase after the service.** -/
def complete (r : FlowRegistry) (note : Hook → ε) : List ε × Except Failure Unit :=
  failed .completion (Hook.runUntilFailure note r.completion)

/-- **The phase after a failure.** What its hooks report is counted and changes nothing. -/
def recover (r : FlowRegistry) (note : Hook → ε) : List ε × Nat := Hook.runEach note r.error

/-- The text of a registry in diagnostics. -/
def describe (r : FlowRegistry) : String :=
  "EventFlowRegistry \x7b initialization_flows: " ++ toString r.initialization.length ++
    ", completion_flows: " ++ toString r.completion.length ++
    ", error_flows: " ++ toString r.error.length ++ " \x7d"

end FlowRegistry

/-- The registries of a broker. An operation that only reads has none. -/
structure FlowRegistries where
  createInstance : FlowRegistry := {}
  updateInstance : FlowRegistry := {}
  deleteInstance : FlowRegistry := {}
  /-- Polls of instances. -/
  pollInstance : FlowRegistry := {}
  createBinding : FlowRegistry := {}
  deleteBinding : FlowRegistry := {}
  /-- Polls of bindings. -/
  pollBinding : FlowRegistry := {}
deriving DecidableEq, Repr

namespace FlowRegistries

/-- The registries with another one for creations of instances. -/
def withCreateInstance (rs : FlowRegistries) (r : FlowRegistry) : FlowRegistries :=
  { rs with createInstance := r }

/-- The registries with another one for updates of instances. -/
def withUpdateInstance (rs : FlowRegistries) (r : FlowRegistry) : FlowRegistries :=
  { rs with updateInstance := r }

/-- The registries with another one for deletions of instances. -/
def withDeleteInstance (rs : FlowRegistries) (r : FlowRegistry) : FlowRegistries :=
  { rs with deleteInstance := r }

/-- The registries with another one for polls of instances. -/
def withPollInstance (rs : FlowRegistries) (r : FlowRegistry) : FlowRegistries :=
  { rs with pollInstance := r }

/-- The registries with another one for creations of bindings. -/
def withCreateBinding (rs : FlowRegistries) (r : FlowRegistry) : FlowRegistries :=
  { rs with createBinding := r }

/-- The registries with another one for deletions of bindings. -/
def withDeleteBinding (rs : FlowRegistries) (r : FlowRegistry) : FlowRegistries :=
  { rs with deleteBinding := r }

/-- The registries with another one for polls of bindings. -/
def withPollBinding (rs : FlowRegistries) (r : FlowRegistry) : FlowRegistries :=
  { rs with pollBinding := r }

/-- The registry of an operation. -/
def of? (rs : FlowRegistries) : Operation → Option FlowRegistry
  | .createInstance => some rs.createInstance
  | .updateInstance => some rs.updateInstance
  | .deleteInstance => some rs.deleteInstance
  | .pollInstance => some rs.pollInstance
  | .createBinding => some rs.createBinding
  | .deleteBinding => some rs.deleteBinding
  | .pollBinding => some rs.pollBinding
  | .getInstance => none
  | .getBinding => none

/-- The text of the registries in diagnostics. -/
def describe (rs : FlowRegistries) : String :=
  "EventFlowRegistries \x7b create_instance: " ++ rs.createInstance.describe ++
    ", update_instance: " ++ rs.updateInstance.describe ++
    ", delete_instance: " ++ rs.deleteInstance.describe ++
    ", async_operation: " ++ rs.pollInstance.describe ++
    ", create_binding: " ++ rs.createBinding.describe ++
    ", delete_binding: " ++ rs.deleteBinding.describe ++
    ", async_binding_operation: " ++ rs.pollBinding.describe ++ " \x7d"

end FlowRegistries

end Brokerage
