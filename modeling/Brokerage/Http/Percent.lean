import Brokerage.Json.Token
import Brokerage.Http.Message

/-!
# Percent encoding and queries

* `Http.percentDecode`: the bytes of a text in which `%` and two hexadecimal digits stand for a
  byte. An escape sign without two digits stands for itself.
* `Http.percentText?`: the text of these bytes.
* `Http.percentEncode`: a text in which whatever may mean something else is escaped.
* `Http.parseQuery`: the names and texts of a query string.
-/

namespace Brokerage.Http

/-- The bytes of a percent-encoded text, given as bytes. -/
def percentDecode : List UInt8 → List UInt8
  | [] => []
  | 0x25 :: a :: b :: rest =>
    match Json.Token.hexValue? a, Json.Token.hexValue? b with
    | some h, some l => .ofNat (h * 16 + l) :: percentDecode rest
    | _, _ => 0x25 :: percentDecode (a :: b :: rest)
  | b :: rest => b :: percentDecode rest

/-- The text of a percent-encoded text, if it is one. -/
def percentText? (s : List Char) : Option String :=
  (Utf8.decode? (percentDecode (Utf8.encode s))).map String.ofList

/-- A character that means itself wherever it stands: a letter, a digit, or one of four marks. -/
def isUnreserved (c : Char) : Bool :=
  let n := c.toNat
  (0x30 ≤ n && n ≤ 0x39) || (0x41 ≤ n && n ≤ 0x5A) || (0x61 ≤ n && n ≤ 0x7A) ||
    n == 0x2D || n == 0x2E || n == 0x5F || n == 0x7E

/-- The hexadecimal digit of a number below sixteen. -/
def hexDigit (n : Nat) : Char := .ofNat (if n < 10 then 0x30 + n else 0x37 + n)

/-- The escape of a byte. -/
def percentEscape (b : UInt8) : List Char :=
  ['%', hexDigit (b.toNat / 16), hexDigit (b.toNat % 16)]

/-- The percent-encoded form of a text. -/
def percentEncode (s : String) : List Char :=
  s.toList.flatMap fun c => if isUnreserved c then [c] else (Utf8.encodeChar c).flatMap percentEscape

/-- A name or a text of a query: plus signs stand for spaces, and what is no text is replaced. -/
def queryText (s : List Char) : String :=
  let spaced := s.map fun c => if c = '+' then ' ' else c
  String.ofList (Utf8.decodeLossy (percentDecode (Utf8.encode spaced)))

/-- The names and texts of a query string. A name without an equals sign has an empty text. -/
def parseQuery (s : List Char) : List (String × String) :=
  ((splitAt '&' s).filter (!·.isEmpty)).map fun piece =>
    let (name, value) := cut (· == '=') piece
    (queryText name, queryText (value.getD []))

end Brokerage.Http
