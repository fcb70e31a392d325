import Brokerage.Text.Utf8
import Brokerage.Json.Basic

/-!
# JSON texts

* `Json.print`: the text of a value without spaces, members in their order.

Only marks, escape signs and control characters are escaped; the six with a letter of their own
take it.
-/

namespace Brokerage.Json

/-- A character of a text. -/
def printChar (c : Char) : List Char :=
  match c with
  | '"' => ['\\', '"']
  | '\\' => ['\\', '\\']
  | '\x08' => ['\\', 'b']
  | '\x0c' => ['\\', 'f']
  | '\n' => ['\\', 'n']
  | '\r' => ['\\', 'r']
  | '\t' => ['\\', 't']
  | c =>
    if c.toNat < 0x20 then
      ['\\', 'u', '0', '0', Nat.digitChar (c.toNat / 16), Nat.digitChar (c.toNat % 16)]
    else [c]

/-- A text between marks. -/
def printText (s : String) : List Char := ['"'] ++ s.toList.flatMap printChar ++ ['"']

mutual

/-- The characters of a value. -/
def printChars : Json → List Char
  | .null => ['n', 'u', 'l', 'l']
  | .bool true => ['t', 'r', 'u', 'e']
  | .bool false => ['f', 'a', 'l', 's', 'e']
  | .number n => n.render.toList
  | .text s => printText s
  | .array items => '[' :: printItems items
  | .object members => '\x7b' :: printMembers members

/-- The items of an array and its closing bracket. -/
def printItems : List Json → List Char
  | [] => [']']
  | [item] => printChars item ++ [']']
  | item :: rest => printChars item ++ ',' :: printItems rest

/-- The members of an object and its closing bracket. -/
def printMembers : List (String × Json) → List Char
  | [] => ['\x7d']
  | [(name, value)] => printText name ++ ':' :: printChars value ++ ['\x7d']
  | (name, value) :: rest => printText name ++ ':' :: printChars value ++ ',' :: printMembers rest

end

/-- **The text of a value.** -/
def print (j : Json) : String := String.ofList j.printChars

/-- The bytes of the text of a value. -/
def printBytes (j : Json) : List UInt8 := Utf8.encode j.printChars

end Brokerage.Json
