import Brokerage.Http.Message

/-!
# Media types

* `Http.MediaType.parse?`: type, subtype and suffix of a content type with its parameters.
* `Http.MediaType.isJson`: the media types of JSON.
-/

namespace Brokerage.Http

/-- A media type. The suffix stands behind the last plus sign of the subtype. -/
structure MediaType where
  type : List Char
  subtype : List Char
  suffix : Option (List Char)
deriving DecidableEq, Repr

namespace MediaType

/-- A character of a token. -/
def isTokenChar (c : Char) : Bool :=
  c.isAlphanum ||
    c ∈ ['!', '#', '$', '%', '&', '\'', '*', '+', '-', '.', '^', '_', '\x60', '|', '~']

/-- A character between quotation marks. -/
def isQuotedChar (c : Char) : Bool := 0x20 ≤ c.toNat && c.toNat != 0x7F

/-- Where a reader of parameters stands. -/
inductive Place where
  /-- Before a name, perhaps behind spaces. -/
  | start
  /-- Inside a name. -/
  | name
  /-- Behind an equals sign. -/
  | equals
  /-- Inside a value. -/
  | value
  /-- Behind an opening quotation mark. -/
  | opened
  /-- Inside quotation marks. -/
  | quoted
  /-- Behind a closing quotation mark. -/
  | closed
deriving DecidableEq, Repr

/-- Where the reader stands after a character, if it may stand there. -/
def Place.step (p : Place) (c : Char) : Option Place :=
  match p with
  | .start => if c = ' ' then some .start else if isTokenChar c then some .name else none
  | .name => if isTokenChar c then some .name else if c = '=' then some .equals else none
  | .equals => if c = '"' then some .opened else if isTokenChar c then some .value else none
  | .value => if isTokenChar c then some .value else if c = ';' then some .start else none
  | .opened => if isQuotedChar c then some .quoted else none
  | .quoted => if c = '"' then some .closed else if isQuotedChar c then some .quoted else none
  | .closed => if c = ';' then some .start else if c = ' ' then some .closed else none

/-- Parameters may end here. -/
def Place.isEnd : Place → Bool
  | .start | .equals | .value | .closed => true
  | _ => false

/-- The text behind a semicolon is a list of parameters. -/
def areParameters : Place → List Char → Bool
  | p, [] => p.isEnd
  | p, c :: rest =>
    match p.step c with
    | some q => areParameters q rest
    | none => false

/-- Splits a subtype at its last plus sign, unless that is its first character. -/
def splitSuffix (s : List Char) : List Char × Option (List Char) :=
  let after := (s.reverse.takeWhile (· != '+')).reverse
  let before := s.take (s.length - after.length - 1)
  if after.length + 1 < s.length then (before, some after) else (s, none)

/-- The media type of a content type. -/
def parse? (s : List Char) : Option MediaType :=
  let (type, rest) := cut (· == '/') s
  match rest with
  | none => none
  | some rest =>
    let (subtype, parameters) := cut (· == ';') rest
    if type = [] ∨ !type.all isTokenChar ∨ !subtype.all isTokenChar then none
    else if parameters.any (fun ps => subtype = [] || !areParameters .start ps) then none
    else some ⟨type, (splitSuffix subtype).1, (splitSuffix subtype).2⟩

/-- Two texts are the same but for the case of ASCII letters. -/
def same (s : List Char) (t : String) : Bool := s.map Char.toLower == t.toList

/-- A media type of JSON: its subtype or its suffix says so. -/
def isJson (m : MediaType) : Bool :=
  same m.type "application" && (same m.subtype "json" || m.suffix.any (same · "json"))

end MediaType

end Brokerage.Http
