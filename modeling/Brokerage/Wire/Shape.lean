import Brokerage.Json.Basic
import Brokerage.Net.SocketAddress

/-!
# Shapes of messages

Every message of the protocol has one description, from which it is read and written.

* `Wire.Shape`, `Wire.Fields`: the descriptions.
* `Shape.Value`, `Fields.Values`: the values of a shape.
* `Wire.Message`: a type whose values travel as messages of a shape.
-/

namespace Brokerage

/-- The state of an operation that a service carries out in the background. -/
inductive OperationState where
  | inProgress
  | succeeded
  | failed
deriving DecidableEq, Repr

/-- The name of a state in messages. -/
def OperationState.name : OperationState → String
  | .inProgress => "in progress"
  | .succeeded => "succeeded"
  | .failed => "failed"

/-- The state of a name. -/
def OperationState.ofName? (name : String) : Option OperationState :=
  if name = "in progress" then some .inProgress
  else if name = "succeeded" then some .succeeded
  else if name = "failed" then some .failed
  else none

namespace Wire

/-- How a member of a record may be left out. -/
structure Presence where
  /-- Without the member the record has the blank value of its shape, in an array too. -/
  defaulted : Bool
  /-- The member is not written when its value is blank. -/
  omitted : Bool
deriving DecidableEq, Repr

/-- A member that is always there. -/
def Presence.required : Presence := ⟨false, false⟩

/-- A member that may be left out and is always written. -/
def Presence.filled : Presence := ⟨true, false⟩

/-- A member that may be left out, and is when it is blank. -/
def Presence.sparse : Presence := ⟨true, true⟩

/-- A member that is not written when it is blank, and that an array may not end before. -/
def Presence.skipped : Presence := ⟨false, true⟩

mutual

/-- The shape of a value. -/
inductive Shape where
  | text
  /-- A truth value, with the one it has when left out. -/
  | flag (blank : Bool)
  | port
  | address
  | state
  /-- An object whose members are kept as they are. -/
  | object
  | list (item : Shape)
  /-- A value or null. -/
  | optional (inner : Shape)
  /-- An object with known members. -/
  | record (name : String) (fields : Fields)

/-- The members of a record, in order. -/
inductive Fields where
  | nil
  | cons (name : String) (shape : Shape) (presence : Presence) (rest : Fields)

end

mutual

/-- The values of a shape. -/
@[reducible] def Shape.Value : Shape → Type
  | .text => String
  | .flag _ => Bool
  | .port => UInt16
  | .address => Net.SocketAddress
  | .state => OperationState
  | .object => Json.Members
  | .list item => List item.Value
  | .optional inner => Option inner.Value
  | .record _ fields => fields.Values

/-- The values of the members of a record. -/
@[reducible] def Fields.Values : Fields → Type
  | .nil => Unit
  | .cons _ shape _ rest => shape.Value × rest.Values

end

mutual

/-- The value a member has when it is left out. -/
def Shape.blank : (s : Shape) → s.Value
  | .text => ""
  | .flag b => b
  | .port => (0 : UInt16)
  | .address => .v4 ⟨0, 0, 0, 0⟩ 0
  | .state => .inProgress
  | .object => ([] : Json.Members)
  | .list _ => []
  | .optional _ => none
  | .record _ fields => fields.blank

/-- The values of members that are all left out. -/
def Fields.blank : (fs : Fields) → fs.Values
  | .nil => ()
  | .cons _ shape _ rest => (shape.blank, rest.blank)

end

/-- Nothing is lost when the value is left out: an empty list or no value. -/
def Shape.isBlank : (s : Shape) → s.Value → Bool
  | .list _, [] => true
  | .optional _, none => true
  | _, _ => false

/-- The number of members. -/
def Fields.size : Fields → Nat
  | .nil => 0
  | .cons _ _ _ rest => rest.size + 1

/-- The name of a member is known. -/
def Fields.knows (name : String) : Fields → Bool
  | .nil => false
  | .cons n _ _ rest => n == name || rest.knows name

/-- **A type whose values travel as messages.** A message may leave out what a value holds besides it,
but what was read holds all of the message, each part where it belongs. -/
class Message (α : Type) where
  shape : Shape
  ofValue : shape.Value → α
  toValue : α → shape.Value
  toValue_ofValue : ∀ v, toValue (ofValue v) = v := by exact fun _ => rfl

namespace Message

variable {α : Type} [Message α]

theorem toValue_comp_ofValue : (toValue ∘ ofValue (α := α)) = id := funext toValue_ofValue

/-- An optional message holds all that was read. -/
@[simp] theorem map_optional (o : Option (shape α).Value) :
    (o.map (ofValue (α := α))).map toValue = o := by
  rw [Option.map_map, toValue_comp_ofValue, Option.map_id_fun, id]

/-- So do messages in a list. -/
@[simp] theorem map_list (vs : List (shape α).Value) :
    (vs.map (ofValue (α := α))).map toValue = vs := by
  rw [List.map_map, toValue_comp_ofValue, List.map_id]

end Message

end Wire

end Brokerage
