import Brokerage.Identity.Base64
import Brokerage.Json.Printer
import Brokerage.Text.Blank
import Brokerage.Wire.OfText
import Brokerage.Envelope

/-!
# The originating identity header

The header names a platform and, behind a space, the properties of its user: an object in base64.

* `OriginatingIdentity.parse`: the identity that a header value holds.
* `OriginatingIdentity.write`: a header value that holds an identity.
* `IdentityFault`: why a value holds none.
-/

namespace Brokerage

/-- Why a header value holds no identity. -/
inductive IdentityFault where
  /-- Nothing parts a platform from properties. -/
  | noSpace
  | noPlatform
  | noBase64
  | noObject (fault : Wire.Fault)
deriving DecidableEq, Repr

/-- The name of the header. -/
def OriginatingIdentity.headerName : String := "X-Broker-API-Originating-Identity"

/-- What is wrong with the value. -/
def IdentityFault.detail : IdentityFault → String
  | noSpace => "expected '<platform> <base64 properties>'"
  | noPlatform => "platform is empty"
  | noBase64 => "properties are not base64: <base64>"
  | noObject fault => "properties are not a JSON object: " ++ fault.message

/-- The words for a fault. -/
def IdentityFault.message (f : IdentityFault) : String :=
  "Malformed " ++ OriginatingIdentity.headerName ++ " header: " ++ f.detail

namespace OriginatingIdentity

/-- The text before the first space and the text behind it. -/
def splitSpace : List Char → Option (List Char × List Char)
  | [] => none
  | c :: rest =>
    if c = ' ' then some ([], rest) else (splitSpace rest).map fun (a, b) => (c :: a, b)

/-- **The identity of a header value.** Blanks around the value and around the properties do not
matter. -/
def parse (value : List Char) : Except IdentityFault OriginatingIdentity :=
  match splitSpace (Text.trim value) with
  | none => .error .noSpace
  | some (platform, encoded) =>
    if platform = [] then .error .noPlatform
    else
      match Base64.decode? (Text.trim encoded) with
      | none => .error .noBase64
      | some bytes =>
        match Wire.Shape.object.ofText bytes with
        | .error fault => .error (.noObject fault)
        | .ok properties => .ok ⟨String.ofList platform, properties⟩

/-- A header value that holds the identity. -/
def write (i : OriginatingIdentity) : List Char :=
  i.platform.toList ++ ' ' :: Base64.encode (Json.object i.properties).printBytes

end OriginatingIdentity

end Brokerage
