/-!
# Operations

* `Operation`: what a platform can ask of a broker, with the catalog apart.
* `Resource`: what an operation is about, `Operation.resource`.
-/

namespace Brokerage

/-- What an operation is about. -/
inductive Resource where
  | serviceInstance
  | serviceBinding
deriving DecidableEq, Repr

/-- How a message speaks of a resource. -/
def Resource.label : Resource → String
  | .serviceInstance => "Service instance"
  | .serviceBinding => "Service instance binding"

/-- The other resource. -/
def Resource.swap : Resource → Resource
  | .serviceInstance => .serviceBinding
  | .serviceBinding => .serviceInstance

/-- An operation of the protocol. -/
inductive Operation where
  | createInstance
  | updateInstance
  | deleteInstance
  | getInstance
  | pollInstance
  | createBinding
  | deleteBinding
  | getBinding
  | pollBinding
deriving DecidableEq, Repr

namespace Operation

/-- All operations. -/
def all : List Operation :=
  [.createInstance, .updateInstance, .deleteInstance, .getInstance, .pollInstance,
    .createBinding, .deleteBinding, .getBinding, .pollBinding]

/-- The name of an operation in metrics and logs. -/
def name : Operation → String
  | createInstance => "create_instance"
  | updateInstance => "update_instance"
  | deleteInstance => "delete_instance"
  | getInstance => "get_instance"
  | pollInstance => "get_last_operation"
  | createBinding => "create_binding"
  | deleteBinding => "delete_binding"
  | getBinding => "get_binding"
  | pollBinding => "get_last_binding_operation"

/-- The operation of a name. -/
def ofName? (s : String) : Option Operation := all.find? (·.name == s)

/-- The operation deletes its resource. -/
def isDelete : Operation → Bool
  | deleteInstance | deleteBinding => true
  | _ => false

/-- The operation reads its resource. -/
def isGet : Operation → Bool
  | getInstance | getBinding => true
  | _ => false

/-- The resource that an operation is about. -/
def resource : Operation → Resource
  | createBinding | deleteBinding | getBinding | pollBinding => .serviceBinding
  | _ => .serviceInstance

end Operation

end Brokerage
