import Brokerage.Json.Basic
import Brokerage.Json.Token

/-!
# Documents

A JSON text as it stands: members in the order they are written, repeated names and all, down to
the place where the text breaks off, if it does.

* `Document`: the tree of a text. `Document.broken`, `Items.cut` and `Members.cut` mark the place
  where the text ends too early or is no JSON.
* `Document.read`: the tree of the first value of a text, and the tokens behind it. Every text has
  one.
* `Document.isWhole`: the tree of a text that is JSON throughout.
* `Document.toJson?`: the value of a tree nested no deeper than allowed.
-/

namespace Brokerage.Json

mutual

/-- The tree of a text. -/
inductive Document where
  | null
  | bool (b : Bool)
  | numeral (n : Numeral)
  | text (content : Option String)
  | array (items : Items)
  | object (members : Members.Written)
  /-- No value stands here. -/
  | broken

/-- The items of an array. -/
inductive Items where
  | closed
  | cut
  | cons (item : Document) (rest : Items)

/-- The members of an object. -/
inductive Members.Written where
  | closed
  | cut
  | cons (name : Option String) (value : Document) (rest : Members.Written)

end

namespace Document

/-! ## From tokens to trees -/

/-- A container that a value is being read for, with what it holds so far, last first. -/
inductive Frame where
  | array (items : List Document)
  /-- The value of the member `name` is being read. -/
  | member (members : List (Option String × Document)) (name : Option String)

/-- Where a reader stands, inside the containers of a stack. -/
inductive Reader where
  /-- Before a value. -/
  | value (stack : List Frame)
  /-- Behind the opening bracket of an array. -/
  | firstItem (stack : List Frame)
  /-- Behind an item of an array. -/
  | afterItem (items : List Document) (stack : List Frame)
  /-- Behind the opening bracket of an object. -/
  | firstName (stack : List Frame)
  /-- Behind a comma of an object. -/
  | nextName (members : List (Option String × Document)) (stack : List Frame)
  /-- Behind a name. -/
  | colon (members : List (Option String × Document)) (name : Option String) (stack : List Frame)
  /-- Behind a member of an object. -/
  | afterMember (members : List (Option String × Document)) (stack : List Frame)

/-- The items of a list, last first, in front of others. -/
def itemsOf (reversed : List Document) (tail : Items) : Items :=
  reversed.foldl (fun rest d => .cons d rest) tail

/-- The members of a list, last first, in front of others. -/
def membersOf (reversed : List (Option String × Document)) (tail : Members.Written) :
    Members.Written :=
  reversed.foldl (fun rest (name, d) => .cons name d rest) tail

/-- The tree of a text that breaks off inside the containers of a stack, `d` being the last value
in it. -/
def abandon (d : Document) : List Frame → Document
  | [] => d
  | .array items :: stack => abandon (.array (itemsOf (d :: items) .cut)) stack
  | .member members name :: stack =>
    abandon (.object (membersOf ((name, d) :: members) .cut)) stack

/-- The tree of a text that breaks off where the reader stands. -/
def Reader.cut : Reader → Document
  | .value stack => abandon .broken stack
  | .firstItem stack => abandon (.array .cut) stack
  | .afterItem items stack => abandon (.array (itemsOf items .cut)) stack
  | .firstName stack => abandon (.object .cut) stack
  | .nextName members stack => abandon (.object (membersOf members .cut)) stack
  | .colon members name stack =>
    abandon (.object (membersOf ((name, .broken) :: members) .cut)) stack
  | .afterMember members stack => abandon (.object (membersOf members .cut)) stack

/-- What a token does to a reader. -/
inductive Progress where
  | going (reader : Reader)
  | finished (d : Document)

/-- Hands a value to the container it was read for. -/
def deliver (d : Document) : List Frame → Progress
  | [] => .finished d
  | .array items :: stack => .going (.afterItem (d :: items) stack)
  | .member members name :: stack => .going (.afterMember ((name, d) :: members) stack)

/-- Starts reading a value at a token. -/
def startValue (t : Token) (stack : List Frame) : Progress :=
  match t with
  | .null => deliver .null stack
  | .bool b => deliver (.bool b) stack
  | .numeral n => deliver (.numeral n) stack
  | .text content => deliver (.text content) stack
  | .openArray => .going (.firstItem stack)
  | .openObject => .going (.firstName stack)
  | _ => .finished (abandon .broken stack)

/-- One token. -/
def Reader.step (r : Reader) (t : Token) : Progress :=
  match r, t with
  | .value stack, t => startValue t stack
  | .firstItem stack, .closeArray => deliver (.array .closed) stack
  | .firstItem stack, t => startValue t (.array [] :: stack)
  | .afterItem items stack, .comma => .going (.value (.array items :: stack))
  | .afterItem items stack, .closeArray => deliver (.array (itemsOf items .closed)) stack
  | .firstName stack, .closeObject => deliver (.object .closed) stack
  | .firstName stack, .text name => .going (.colon [] name stack)
  | .nextName members stack, .text name => .going (.colon members name stack)
  | .colon members name stack, .colon => .going (.value (.member members name :: stack))
  | .afterMember members stack, .comma => .going (.nextName members stack)
  | .afterMember members stack, .closeObject =>
    deliver (.object (membersOf members .closed)) stack
  | r, _ => .finished r.cut

/-- Reads on until a value is complete or the text breaks off. -/
def Reader.run : Reader → List Token → Document × List Token
  | r, [] => (r.cut, [])
  | r, t :: rest =>
    match r.step t with
    | .going r => r.run rest
    | .finished d => (d, rest)

/-- **The first value of a text**, and the tokens behind it. -/
def read (bytes : List UInt8) : Document × List Token := (Reader.value []).run (Token.scan bytes)

end Document

/-! ## Whole trees -/

mutual

/-- No place in the tree is broken. -/
def Document.isWhole : Document → Bool
  | .array items => items.isWhole
  | .object members => members.isWhole
  | .broken => false
  | _ => true

/-- The items come to their end and are whole. -/
def Items.isWhole : Items → Bool
  | .closed => true
  | .cut => false
  | .cons item rest => item.isWhole && rest.isWhole

/-- The members come to their end and are whole. -/
def Members.Written.isWhole : Members.Written → Bool
  | .closed => true
  | .cut => false
  | .cons _ value rest => value.isWhole && rest.isWhole

end

/-! ## Values -/

/-- How deep arrays and objects may be nested in a value that is kept. -/
def maxDepth : Nat := 127

mutual

/-- The value of a tree whose containers are nested at most `room` deep. -/
def Document.toJson? : (room : Nat) → Document → Option Json
  | _, .null => some .null
  | _, .bool b => some (.bool b)
  | _, .numeral n => n.number?.map .number
  | _, .text content => content.map .text
  | room + 1, .array items => (items.toJson? room).map .array
  | room + 1, .object members => (members.toJson? room).map ofMembers
  | _, _ => none

/-- The values of items. -/
def Items.toJson? : (room : Nat) → Items → Option (List Json)
  | _, .closed => some []
  | _, .cut => none
  | room, .cons item rest => do
    let item ← item.toJson? room
    let rest ← rest.toJson? room
    pure (item :: rest)

/-- The members as they are written. -/
def Members.Written.toJson? : (room : Nat) → Members.Written → Option Members
  | _, .closed => some []
  | _, .cut => none
  | room, .cons name value rest => do
    let name ← name
    let value ← value.toJson? room
    let rest ← rest.toJson? room
    pure ((name, value) :: rest)

end

/-- **The value of a text**, if the text is one JSON value and nothing else. -/
def parse? (bytes : List UInt8) : Option Json :=
  match Document.read bytes with
  | (d, []) => d.toJson? maxDepth
  | _ => none

end Brokerage.Json
