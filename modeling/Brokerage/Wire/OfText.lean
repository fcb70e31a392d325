import Brokerage.Wire.OfJson

/-!
# Reading messages from texts

* `Shape.ofDocument`: the value that a document stands for, or the first thing wrong with it in the
  order of the text, be it a value of the wrong shape or the place where the text breaks off.
* `Wire.decodeText`: the message of a whole text.
* `Wire.decodeFront`: the message at the front of a text.

What follows from the order: a member is refused when its name comes a second time, before its
value is looked at; a missing member is noticed only at the end of the object. Members without a
place in the record are passed over, however deep, as long as they are JSON.
-/

namespace Brokerage.Wire

open Json (Document Items)

/-- Neither the wanted value nor anything that could be told apart from it. -/
def unwanted (d : Document) (wanted : String) : Fault :=
  match Found.ofDocument? d with
  | some found => .here (.wrongType found wanted)
  | none => .syntaxError

/-- An issue at the value at hand. -/
def located (e : Except Issue α) : Except Fault α := e.mapError .here

/-- A state, as its name or as an object with the name and null. -/
def stateOfDocument (room : Nat) : Document → Except Fault OperationState
  | .text (some s) => located (stateOfText s)
  | .object ms =>
    if room = 0 then .error .syntaxError
    else match ms with
      | .cons (some name) payload rest =>
        match stateOfText name with
        | .error e => .error (.here e)
        | .ok st =>
          match payload, rest with
          | .null, .closed => .ok st
          | .null, _ => .error .syntaxError
          | d, _ => .error (unwanted d "unit")
      | _ => .error .syntaxError
  | _ => .error .syntaxError

/-- Reads each item of an array. -/
def readItems (item : Document → Except Fault α) : (place : Nat) → Items → Except Fault (List α)
  | _, .closed => .ok []
  | _, .cut => .error .syntaxError
  | i, .cons d rest =>
    match item d with
    | .error e => .error (e.under (.item i))
    | .ok v => (readItems item (i + 1) rest).map (v :: ·)

/-- Reads the members of an object in turn, to their end. -/
def readMembers (member : σ → String → Document → Except Fault σ) :
    σ → Json.Members.Written → Except Fault σ
  | slots, .closed => .ok slots
  | _, .cut => .error .syntaxError
  | _, .cons none _ _ => .error .syntaxError
  | slots, .cons (some key) d rest =>
    match member slots key d with
    | .error e => .error e
    | .ok slots => readMembers member slots rest

mutual

/-- **Reading a document**, its containers nested at most `room` deep. -/
def Shape.ofDocument : (s : Shape) → (room : Nat) → Document → Except Fault s.Value
  | .text, _, .text (some s) => .ok s
  | .text, _, d => .error (unwanted d "a string")
  | .flag _, _, .bool b => .ok b
  | .flag _, _, d => .error (unwanted d "a boolean")
  | .port, _, .numeral n =>
    match n.number? with
    | some (.int i) => located (portOfInt i)
    | _ => .error (unwanted (.numeral n) "u16")
  | .port, _, d => .error (unwanted d "u16")
  | .address, _, .text (some s) => located (addressOfText s)
  | .address, _, d => .error (unwanted d "socket address")
  | .state, room, d => stateOfDocument room d
  | .object, room, .object ms =>
    match room with
    | 0 => .error .syntaxError
    | room + 1 =>
      match ms.toJson? room with
      | some ms => .ok ms.sorted
      | none => .error .syntaxError
  | .object, _, d => .error (unwanted d "a map")
  | .list item, room, .array items =>
    match room with
    | 0 => .error .syntaxError
    | room + 1 => readItems (item.ofDocument room) 0 items
  | .list _, _, d => .error (unwanted d "a sequence")
  | .optional _, _, .null => .ok none
  | .optional inner, room, d => (inner.ofDocument room d).map some
  | .record name fields, room, .array items =>
    match room with
    | 0 => .error .syntaxError
    | room + 1 =>
      match fields.ofDocumentItems name fields.size room 0 items with
      | .error e => .error e
      | .ok (vs, .closed) => .ok vs
      | .ok _ => .error .syntaxError
  | .record _ fields, room, .object ms =>
    match room with
    | 0 => .error .syntaxError
    | room + 1 =>
      (readMembers (fields.fillFrom room) fields.emptySlots ms).bind
        fun slots => located (fields.close slots)
  | .record name _, _, d => .error (unwanted d ("struct " ++ name))

/-- Gives a member its value; one without a place only has to be JSON. -/
def Fields.fillFrom : (fs : Fields) → (room : Nat) → fs.Slots → String → Document →
    Except Fault fs.Slots
  | .nil, _, slots, _, d => if d.isWhole then .ok slots else .error .syntaxError
  | .cons name shape _ rest, room, (slot, slots), key, d =>
    if key = name then
      if slot.isSome then .error (.here (.duplicate name))
      else match shape.ofDocument room d with
        | .error e => .error (e.under (.member name))
        | .ok v => .ok (some v, slots)
    else (rest.fillFrom room slots key d).map fun slots => (slot, slots)

/-- Reads members from the items of an array, by place; also the items left over. -/
def Fields.ofDocumentItems (record : String) (size : Nat) :
    (fs : Fields) → (room : Nat) → (place : Nat) → Items → Except Fault (fs.Values × Items)
  | .nil, _, _, items => .ok ((), items)
  | .cons _ _ _ _, _, _, .cut => .error .syntaxError
  | .cons _ shape _ rest, room, i, .cons d items =>
    match shape.ofDocument room d with
    | .error e => .error (e.under (.item i))
    | .ok v =>
      (rest.ofDocumentItems record size room (i + 1) items).map fun (vs, left) => ((v, vs), left)
  | .cons _ shape presence rest, room, i, .closed =>
    if presence.defaulted then
      (rest.ofDocumentItems record size room (i + 1) .closed).map
        fun (vs, left) => ((shape.blank, vs), left)
    else .error (.here (.tooShort i record size))

end

/-- The value at the front of a text; what follows it does not matter. -/
def Shape.ofFront (s : Shape) (bytes : List UInt8) : Except Fault s.Value :=
  s.ofDocument Json.maxDepth (Document.read bytes).1

/-- The value of a text with nothing behind it. -/
def Shape.ofText (s : Shape) (bytes : List UInt8) : Except Fault s.Value :=
  match s.ofFront bytes, (Document.read bytes).2 with
  | .error e, _ => .error e
  | .ok v, [] => .ok v
  | .ok _, _ :: _ => .error .syntaxError

/-- Reads the message at the front of a text. -/
def decodeFront (α : Type) [Message α] (bytes : List UInt8) : Except Fault α :=
  ((Message.shape α).ofFront bytes).map Message.ofValue

/-- Reads the message of a text with nothing behind it. -/
def decodeText (α : Type) [Message α] (bytes : List UInt8) : Except Fault α :=
  ((Message.shape α).ofText bytes).map Message.ofValue

end Brokerage.Wire
