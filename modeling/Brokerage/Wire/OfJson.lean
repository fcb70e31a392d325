import Brokerage.Wire.Record

/-!
# Reading messages from JSON values

* `Shape.ofJson`: the value that a JSON value stands for, or the first thing wrong with it, members
  taken in the order of the object.
* `Wire.decode`: the same for a message type.
-/

namespace Brokerage.Wire

/-- A whole number in the range of a port. -/
def portOfInt (n : Int) : Except Issue UInt16 :=
  if 0 ≤ n ∧ n < 65536 then .ok (.ofNat n.toNat) else .error (.outOfRange n "u16")

/-- The address a text writes. -/
def addressOfText (s : String) : Except Issue Net.SocketAddress :=
  match Net.SocketAddress.parse? s with
  | some a => .ok a
  | none => .error .badAddress

/-- The state of a name. -/
def stateOfText (s : String) : Except Issue OperationState :=
  match OperationState.ofName? s with
  | some st => .ok st
  | none => .error (.unknownState s)

/-- A state, as its name or as an object with the name and null. -/
def stateOfJson : Json → Except Issue OperationState
  | .text s => stateOfText s
  | .object [(name, payload)] =>
    match stateOfText name with
    | .error e => .error e
    | .ok st =>
      match payload with
      | .null => .ok st
      | j => .error (.wrongType (.ofJson j) "unit")
  | .object _ => .error .manyStates
  | j => .error (.wrongType (.ofJson j) "string or map")

mutual

/-- **Reading a value.** -/
def Shape.ofJson : (s : Shape) → Json → Except Issue s.Value
  | .text, .text s => .ok s
  | .text, j => .error (.wrongType (.ofJson j) "a string")
  | .flag _, .bool b => .ok b
  | .flag _, j => .error (.wrongType (.ofJson j) "a boolean")
  | .port, .number (.int n) => portOfInt n
  | .port, j => .error (.wrongType (.ofJson j) "u16")
  | .address, .text s => addressOfText s
  | .address, j => .error (.wrongType (.ofJson j) "socket address")
  | .state, j => stateOfJson j
  | .object, .object ms => .ok ms
  | .object, j => .error (.wrongType (.ofJson j) "a map")
  | .list item, .array xs => xs.mapM item.ofJson
  | .list _, j => .error (.wrongType (.ofJson j) "a sequence")
  | .optional _, .null => .ok none
  | .optional inner, j => (inner.ofJson j).map some
  | .record name fields, .array xs =>
    match fields.ofItems name fields.size 0 xs with
    | .error e => .error e
    | .ok (vs, []) => .ok vs
    | .ok (_, _ :: _) => .error (.tooLong xs.length)
  | .record _ fields, .object ms =>
    (ms.foldlM (fun slots (k, v) => fields.fill slots k v) fields.emptySlots).bind fields.close
  | .record name _, j => .error (.wrongType (.ofJson j) ("struct " ++ name))

/-- Gives a member its value. -/
def Fields.fill : (fs : Fields) → fs.Slots → String → Json → Except Issue fs.Slots
  | .nil, slots, _, _ => .ok slots
  | .cons name shape _ rest, (slot, slots), key, j =>
    if key = name then
      if slot.isSome then .error (.duplicate name)
      else (shape.ofJson j).map fun v => (some v, slots)
    else (rest.fill slots key j).map fun slots => (slot, slots)

/-- Reads members from the items of an array, by place; also the items left over. -/
def Fields.ofItems (record : String) (size : Nat) :
    (fs : Fields) → (place : Nat) → List Json → Except Issue (fs.Values × List Json)
  | .nil, _, xs => .ok ((), xs)
  | .cons _ shape _ rest, i, x :: xs =>
    match shape.ofJson x with
    | .error e => .error e
    | .ok v => (rest.ofItems record size (i + 1) xs).map fun (vs, left) => ((v, vs), left)
  | .cons _ shape presence rest, i, [] =>
    if presence.defaulted then
      (rest.ofItems record size (i + 1) []).map fun (vs, left) => ((shape.blank, vs), left)
    else .error (.tooShort i record size)

end

/-- Reads a message from a JSON value. -/
def decode (α : Type) [Message α] (j : Json) : Except Issue α :=
  ((Message.shape α).ofJson j).map Message.ofValue

end Brokerage.Wire
