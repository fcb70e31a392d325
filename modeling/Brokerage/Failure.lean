import Brokerage.Operation

/-!
# Failures

* `Failure`: why a request fails, wherever it does.
* `Failure.root`: the failure under all hook wrappers, which decides the answer.
* `Failure.message`, `Failure.kind`: its words and its label.
-/

namespace Brokerage

/-- An entry of the catalog. -/
inductive CatalogEntry where
  | service
  | plan
deriving DecidableEq, Repr

/-- How a message speaks of a catalog entry. -/
def CatalogEntry.label : CatalogEntry → String
  | .service => "Service definition"
  | .plan => "Service definition plan"

/-- When a hook runs whose failure is a failure of the request. -/
inductive HookPhase where
  /-- Before the service. -/
  | initialization
  /-- After a service that did not fail. -/
  | completion
deriving DecidableEq, Repr

/-- The name of a phase in messages and metrics. -/
def HookPhase.name : HookPhase → String
  | .initialization => "initialization"
  | .completion => "completion"

/-- Why a request fails. -/
inductive Failure where
  /-- The catalog has no such entry. -/
  | catalogNotFound (entry : CatalogEntry) (id : String)
  | resourceDoesNotExist (resource : Resource) (id : String)
  /-- The resource exists with other attributes. -/
  | resourceAlreadyExists (resource : Resource) (id : String)
  /-- An earlier operation on the resource has not ended. -/
  | operationInProgress (operation : Option String)
  | updateNotSupported (reason : String)
  | invalidParameters (reason : String)
  /-- The service works in the background only. -/
  | asyncRequired (reason : String)
  /-- Another operation changed the resource at the same time. -/
  | concurrency (reason : String)
  /-- A hook failed. -/
  | hook (phase : HookPhase) (cause : Failure)
  /-- Anything else, with an error code and a status if the service chose them. -/
  | unclassified (reason : String) (code : Option String) (status : Option UInt16)
deriving DecidableEq, Repr

namespace Failure

/-- The failure under all hook wrappers. -/
def root : Failure → Failure
  | hook _ cause => cause.root
  | f => f

/-- The label of a failure in logs. -/
def kind : Failure → String
  | catalogNotFound _ _ => "catalog_not_found"
  | resourceDoesNotExist _ _ => "resource_does_not_exist"
  | resourceAlreadyExists _ _ => "resource_already_exists"
  | operationInProgress _ => "operation_in_progress"
  | updateNotSupported _ => "update_not_supported"
  | invalidParameters _ => "invalid_parameters"
  | asyncRequired _ => "async_required"
  | concurrency _ => "concurrency_error"
  | hook _ _ => "hook_failure"
  | unclassified _ _ _ => "unclassified"

/-- The words for a failure. Each hook wrapper puts its phase in front. -/
def message : Failure → String
  | catalogNotFound entry id => entry.label ++ " does not exist: id=" ++ id
  | resourceDoesNotExist resource id => resource.label ++ " does not exist: id=" ++ id
  | resourceAlreadyExists resource id => resource.label ++ " already exists: id=" ++ id
  | operationInProgress operation =>
    "Service broker operation is in progress for the requested service instance or binding" ++
      (match operation with
        | some op => ": operation=" ++ op
        | none => "")
  | updateNotSupported reason => "Service instance update not supported: " ++ reason
  | invalidParameters reason => reason
  | asyncRequired reason => reason
  | concurrency reason => reason
  | hook phase cause => phase.name ++ " flow failed: " ++ cause.message
  | unclassified reason _ _ => reason

/-- The failure under wrappers of the given phases, the first outermost. -/
def wrap (phases : List HookPhase) (f : Failure) : Failure := phases.foldr hook f

end Failure

end Brokerage
