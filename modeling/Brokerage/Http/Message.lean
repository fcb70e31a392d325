import Brokerage.Text.Utf8
import Brokerage.Json.Basic

/-!
# HTTP requests and responses

* `Http.Request`: method, target, headers and body, headers and body as bytes.
* `Http.Request.header?`: the first value of a header, whatever the case of its name.
* `Http.Request.headerText?`: the same as text; a value with a byte that is neither visible ASCII
  nor a blank counts as absent.
* `Http.Response`: status, headers and content.
-/

namespace Brokerage.Http

/-- A request. -/
structure Request where
  method : String
  /-- Path and query, perhaps behind a scheme and an authority. -/
  target : String
  headers : List (String × List UInt8) := []
  body : List UInt8 := []

/-- The content of a response. -/
inductive Content where
  | empty
  | json (j : Json)
  | text (s : String)

/-- A response. -/
structure Response where
  status : Nat
  headers : List (String × List UInt8) := []
  content : Content := .empty

/-- The lower case of an ASCII text, other characters as they are. -/
def lower (s : String) : String := s.map Char.toLower

/-- Two names are the same but for case. -/
def sameName (a b : String) : Bool := lower a == lower b

/-- The first value of a header. -/
def header? (name : String) (headers : List (String × List UInt8)) : Option (List UInt8) :=
  (headers.find? fun h => sameName h.1 name).map (·.2)

/-- The first value of a header. -/
def Request.header? (r : Request) (name : String) : Option (List UInt8) :=
  Http.header? name r.headers

/-- A byte that a header value may hold to be read as text. -/
def isVisible (b : UInt8) : Bool := (0x20 ≤ b && b < 0x7F) || b == 0x09

/-- The text of a header value. -/
def visibleText? (value : List UInt8) : Option String :=
  if value.all isVisible then some (String.ofList (value.map fun b => .ofNat b.toNat)) else none

/-- The first value of a header as text. -/
def Request.headerText? (r : Request) (name : String) : Option String :=
  (r.header? name).bind visibleText?

/-- A header with a text. -/
def textHeader (name value : String) : String × List UInt8 := (name, Utf8.encode value.toList)

/-- A response with a JSON value. -/
def Response.json (status : Nat) (j : Json) : Response :=
  ⟨status, [textHeader "content-type" "application/json"], .json j⟩

/-- A response with a text. -/
def Response.text (status : Nat) (s : String) : Response :=
  ⟨status, [textHeader "content-type" "text/plain; charset=utf-8"], .text s⟩

/-- The response without its content. -/
def Response.withoutContent (r : Response) : Response := { r with content := .empty }

/-- The response with a header in place of any others of its name. -/
def Response.withHeader (r : Response) (name : String) (value : List UInt8) : Response :=
  { r with headers := (r.headers.filter fun h => !sameName h.1 name) ++ [(name, value)] }

/-! ## Targets -/

/-- The characters up to the first one that `p` holds of, and those behind it if there is one. -/
def cut (p : Char → Bool) (s : List Char) : List Char × Option (List Char) :=
  match s.dropWhile (!p ·) with
  | [] => (s, none)
  | _ :: rest => (s.takeWhile (!p ·), some rest)

/-- The target from its path on: a scheme and the authority behind it are passed over. -/
def originForm (target : List Char) : List Char :=
  match target, (cut (· == ':') target).2 with
  | '/' :: _, _ => target
  | _, some ('/' :: '/' :: rest) => rest.dropWhile fun c => c != '/' && c != '?' && c != '#'
  | _, _ => target

/-- The target from its path on, without a fragment. -/
def Request.resource (r : Request) : List Char := (cut (· == '#') (originForm r.target.toList)).1

/-- The path, as it is written. -/
def Request.path (r : Request) : List Char := (cut (· == '?') r.resource).1

/-- The query, as it is written; empty if there is none. -/
def Request.query (r : Request) : List Char := ((cut (· == '?') r.resource).2).getD []

/-- Splits at each occurrence of a character. -/
def splitAt (c : Char) : List Char → List (List Char)
  | [] => [[]]
  | x :: rest =>
    if x = c then [] :: splitAt c rest
    else match splitAt c rest with
      | part :: parts => (x :: part) :: parts
      | [] => [[x]]

/-- The segments of a path behind its leading slash; none for a path without one. -/
def segments : List Char → Option (List (List Char))
  | '/' :: rest => some (splitAt '/' rest)
  | _ => none

end Brokerage.Http
