import Brokerage.Wire.Shape

/-!
# Writing messages

* `Shape.toJson`: the JSON value of a value.
* `Wire.encode`: the same for a message type.
* `Wire.Writable`: what is written as a JSON value: a message, or one of several.
-/

namespace Brokerage.Wire

mutual

/-- **Writing a value**: records as objects, members in order, without the blank ones that are left
out. -/
def Shape.toJson : (s : Shape) → s.Value → Json
  | .text, s => .text s
  | .flag _, b => .bool b
  | .port, p => .int p.toNat
  | .address, a => .text a.render
  | .state, st => .text st.name
  | .object, ms => .object ms
  | .list item, vs => .array (vs.map item.toJson)
  | .optional _, none => .null
  | .optional inner, some v => inner.toJson v
  | .record _ fields, vs => .object (fields.toMembers vs)

/-- Writes the members of a record. -/
def Fields.toMembers : (fs : Fields) → fs.Values → Json.Members
  | .nil, _ => []
  | .cons name shape presence rest, (v, vs) =>
    if presence.omitted && shape.isBlank v then rest.toMembers vs
    else (name, shape.toJson v) :: rest.toMembers vs

end

/-- Writes a message. -/
def encode [Message α] (a : α) : Json := (Message.shape α).toJson (Message.toValue a)

/-- What is written as a JSON value. -/
class Writable (α : Type) where
  toJson : α → Json

instance [Message α] : Writable α := ⟨encode⟩

end Brokerage.Wire
