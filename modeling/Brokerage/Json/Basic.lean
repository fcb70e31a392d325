import Brokerage.Number.Numeral

/-!
# JSON values

* `Json`: a value. The members of an object are a list without repeated names, in the order of
  their names.
* `Json.Members`: the members of an object, with `lookup?` and `insert` (a later member takes the
  place of an earlier one of the same name).
* `Json.ofMembers`: the object of any members.
-/

namespace Brokerage

/-- A JSON value. -/
inductive Json where
  | null
  | bool (b : Bool)
  | number (n : Number)
  | text (s : String)
  | array (items : List Json)
  | object (members : List (String × Json))
deriving Repr, Inhabited

namespace Json

/-- The members of an object. -/
abbrev Members := List (String × Json)

/-- A whole number. -/
def int (n : Int) : Json := .number (.int n)

/-- A value that may be missing, null standing for none. -/
def ofOption (f : α → Json) : Option α → Json
  | some a => f a
  | none => .null

namespace Members

/-- The value of a member. -/
def lookup? (name : String) : Members → Option Json
  | [] => none
  | (k, v) :: rest => if k = name then some v else lookup? name rest

/-- Puts a member in its place among members in the order of their names; a member of the same name
gives way. -/
def insert (name : String) (value : Json) : Members → Members
  | [] => [(name, value)]
  | (k, v) :: rest =>
    if name < k then (name, value) :: (k, v) :: rest
    else if name = k then (name, value) :: rest
    else (k, v) :: insert name value rest

/-- The members in the order of their names, the last of each name. -/
def sorted (members : Members) : Members :=
  members.foldl (fun ms (k, v) => ms.insert k v) []

end Members

/-- The object of some members, the last of each name. -/
def ofMembers (members : Members) : Json := .object members.sorted

end Json

end Brokerage
