import Brokerage.Json.Document
import Brokerage.Text.Quoted

/-!
# What can be wrong with a message

* `Wire.Found`: what stands where something else was wanted.
* `Wire.Issue`: the ways in which a value does not have the wanted shape, and `Issue.message`.
* `Wire.Fault`: an issue with its place in a text, or a text that is no JSON.
-/

namespace Brokerage.Wire

/-- What stands where something else was wanted. -/
inductive Found where
  | null
  | bool (b : Bool)
  | number (n : Number)
  | text (s : String)
  | sequence
  | map
deriving DecidableEq, Repr

/-- What a value is found to be. -/
def Found.ofJson : Json → Found
  | .null => .null
  | .bool b => .bool b
  | .number n => .number n
  | .text s => .text s
  | .array _ => .sequence
  | .object _ => .map

/-- What the front of a text is found to be, if it can be told. -/
def Found.ofDocument? : Json.Document → Option Found
  | .null => some .null
  | .bool b => some (.bool b)
  | .numeral n => n.number?.map .number
  | .text content => content.map .text
  | .array _ => some .sequence
  | .object _ => some .map
  | .broken => none

/-- How a message speaks of what was found. -/
def Found.describe : Found → String
  | .null => "null"
  | .bool true => "boolean `true`"
  | .bool false => "boolean `false`"
  | .number (.int n) => "integer `" ++ toString n ++ "`"
  | .number (.float x) => "floating point `" ++ x.render ++ "`"
  | .text s => "string " ++ Text.quoted s
  | .sequence => "sequence"
  | .map => "map"

/-- A way in which a value does not have the wanted shape. -/
inductive Issue where
  | wrongType (found : Found) (wanted : String)
  | outOfRange (n : Int) (wanted : String)
  /-- An array with too few items for a record; `length` is the place of the first missing one. -/
  | tooShort (length : Nat) (record : String) (size : Nat)
  /-- An array with more items than a record has members. -/
  | tooLong (length : Nat)
  | missing (name : String)
  | duplicate (name : String)
  | unknownState (name : String)
  | manyStates
  | badAddress
  /-- A text that should be `true` or `false`. -/
  | badFlag
deriving DecidableEq, Repr

/-- A text in back quotes. -/
def ticked (s : String) : String := "`" ++ s ++ "`"

/-- The words for an issue. -/
def Issue.message : Issue → String
  | .wrongType found wanted => "invalid type: " ++ found.describe ++ ", expected " ++ wanted
  | .outOfRange n wanted =>
    "invalid value: integer " ++ ticked (toString n) ++ ", expected " ++ wanted
  | .tooShort length record size =>
    "invalid length " ++ toString length ++ ", expected struct " ++ record ++ " with " ++
      toString size ++ (if size = 1 then " element" else " elements")
  | .tooLong length => "invalid length " ++ toString length ++ ", expected fewer elements in array"
  | .missing name => "missing field " ++ ticked name
  | .duplicate name => "duplicate field " ++ ticked name
  | .unknownState name =>
    "unknown variant " ++ ticked name ++ ", expected one of `in progress`, `succeeded`, `failed`"
  | .manyStates => "invalid value: map, expected map with a single key"
  | .badAddress => "invalid socket address syntax"
  | .badFlag => "provided string was not `true` or `false`"

/-- A step from a record or a list to one of its parts. -/
inductive Step where
  | member (name : String)
  | item (index : Nat)
deriving DecidableEq, Repr

/-- A path as a message writes it: names divided by points, places in brackets. -/
def renderPath : List Step → String
  | [] => ""
  | .item i :: rest => "[" ++ toString i ++ "]" ++ continued rest
  | .member name :: rest => name ++ continued rest
where
  /-- The path behind its first step. -/
  continued : List Step → String
    | [] => ""
    | .item i :: rest => "[" ++ toString i ++ "]" ++ continued rest
    | .member name :: rest => "." ++ name ++ continued rest

/-- Why a text does not read as a message. -/
inductive Fault where
  /-- The text is no JSON, or not where it is needed. -/
  | syntaxError
  /-- A value has not the wanted shape. -/
  | data (path : List Step) (issue : Issue)
deriving DecidableEq, Repr

/-- The fault seen from the container of the part it lies in. -/
def Fault.under (step : Step) : Fault → Fault
  | .syntaxError => .syntaxError
  | .data path issue => .data (step :: path) issue

/-- An issue of the value at hand. -/
def Fault.here (issue : Issue) : Fault := .data [] issue

/-- The words for a fault, without its place. -/
def Fault.message : Fault → String
  | .syntaxError => "<syntax>"
  | .data _ issue => issue.message

/-- The words for a fault, with its place. -/
def Fault.located : Fault → String
  | .syntaxError => "<syntax>"
  | .data [] issue => issue.message
  | .data path issue => renderPath path ++ ": " ++ issue.message

end Brokerage.Wire
