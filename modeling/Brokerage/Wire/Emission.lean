import Brokerage.Wire.ToJson

/-!
# What a message is written from

A message tells a writer of JSON what it holds, part by part. A writer has a value for every part, with
two exceptions: an entry of a map whose key is no text, and a part that refuses to be written.

* `Wire.Emission`: what a writer is told, as a tree.
* `Emission.render`: the JSON value of a tree, or the first part that has none.
* `Wire.emit`: what a message tells.
-/

namespace Brokerage

namespace Wire

/-- What a writer is told. -/
inductive Emission where
  | null
  | bool (b : Bool)
  | number (n : Number)
  | text (s : String)
  | sequence (items : List Emission)
  /-- Entries whose keys are known only when they are told. -/
  | map (entries : List (Emission × Emission))
  /-- Members whose names are fixed. -/
  | record (members : List (String × Emission))
  /-- A part that cannot be told. -/
  | refusal (reason : String)

/-- Why there is no value. -/
inductive EmissionFault where
  /-- The key of an entry is no text. -/
  | key
  | refused (reason : String)
deriving DecidableEq, Repr

/-- The words for a fault. -/
def EmissionFault.message : EmissionFault → String
  | key => "key must be a string"
  | refused reason => reason

namespace Emission

/-- The name that a key stands for. -/
def name? : Emission → Except EmissionFault String
  | .text s => .ok s
  | .refusal reason => .error (.refused reason)
  | _ => .error .key

mutual

/-- **The value of what a writer is told.** -/
def render : Emission → Except EmissionFault Json
  | .null => .ok .null
  | .bool b => .ok (.bool b)
  | .number n => .ok (.number n)
  | .text s => .ok (.text s)
  | .sequence items => (renderItems items).map .array
  | .map entries => (renderEntries entries).map .object
  | .record members => (renderMembers members).map .object
  | .refusal reason => .error (.refused reason)

/-- The values of items. -/
def renderItems : List Emission → Except EmissionFault (List Json)
  | [] => .ok []
  | item :: rest => do
    let item ← item.render
    let rest ← renderItems rest
    pure (item :: rest)

/-- The members that entries stand for. -/
def renderEntries : List (Emission × Emission) → Except EmissionFault Json.Members
  | [] => .ok []
  | (key, value) :: rest => do
    let name ← key.name?
    let value ← value.render
    let rest ← renderEntries rest
    pure ((name, value) :: rest)

/-- The values of members. -/
def renderMembers : List (String × Emission) → Except EmissionFault Json.Members
  | [] => .ok []
  | (name, value) :: rest => do
    let value ← value.render
    let rest ← renderMembers rest
    pure ((name, value) :: rest)

end

end Emission

end Wire

mutual

/-- What a value that is kept as it is tells. -/
def Json.emit : Json → Wire.Emission
  | .null => .null
  | .bool b => .bool b
  | .number n => .number n
  | .text s => .text s
  | .array items => .sequence (Json.emitItems items)
  | .object members => .map (Json.emitMembers members)

/-- What the items of an array tell. -/
def Json.emitItems : List Json → List Wire.Emission
  | [] => []
  | item :: rest => item.emit :: Json.emitItems rest

/-- What the members of an object tell: they are entries, and their names keys. -/
def Json.emitMembers : List (String × Json) → List (Wire.Emission × Wire.Emission)
  | [] => []
  | (name, value) :: rest => (.text name, value.emit) :: Json.emitMembers rest

end

namespace Wire

mutual

/-- What a value of a shape tells. -/
def Shape.emit : (s : Shape) → s.Value → Emission
  | .text, s => .text s
  | .flag _, b => .bool b
  | .port, p => .number (.int p.toNat)
  | .address, a => .text a.render
  | .state, st => .text st.name
  | .object, ms => .map (Json.emitMembers ms)
  | .list item, vs => .sequence (vs.map item.emit)
  | .optional _, none => .null
  | .optional inner, some v => inner.emit v
  | .record _ fields, vs => .record (fields.emit vs)

/-- What the members of a record tell, without the blank ones that are left out. -/
def Fields.emit : (fs : Fields) → fs.Values → List (String × Emission)
  | .nil, _ => []
  | .cons name shape presence rest, (v, vs) =>
    if presence.omitted && shape.isBlank v then rest.emit vs
    else (name, shape.emit v) :: rest.emit vs

end

/-- What a message tells. -/
def emit [Message α] (a : α) : Emission := (Message.shape α).emit (Message.toValue a)

end Wire

end Brokerage
