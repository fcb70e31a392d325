import Brokerage.Broker
import Brokerage.Http.MediaType
import Brokerage.Http.Percent
import Brokerage.Http.Problem
import Brokerage.Http.Route
import Brokerage.Identity.Header
import Brokerage.Wire.OfForm

/-!
# From HTTP requests to calls

* `Http.Rejection`: why a request is no call, and `Rejection.response`.
* `Http.call`: the call that a request makes on an endpoint, or the first thing wrong with it.

The parts of a request are looked at in a fixed order: path, flag for operations in the background,
envelope, query or body; last whether the route gave all identifiers.
-/

namespace Brokerage.Http

/-- Why a request is no call. -/
inductive Rejection where
  /-- A parameter of the path is no text. -/
  | path (p : Param)
  | query (issue : Wire.Issue)
  | identity (fault : IdentityFault)
  /-- The body is not said to be JSON. -/
  | noJson
  /-- The body has more bytes than are taken in. -/
  | tooLong
  | body (fault : Wire.Fault)
  /-- The route has no such parameter. -/
  | noParam (p : Param)
  /-- No service keeps bindings. -/
  | noBindings
deriving DecidableEq, Repr

/-- The words for a query that does not read. -/
def queryMessage (issue : Wire.Issue) : String :=
  "Failed to deserialize query string: " ++ issue.message

/-- The words for a body that does not read. -/
def bodyMessage : Wire.Fault → String
  | .syntaxError => "Failed to parse the request body as JSON: " ++ Wire.Fault.syntaxError.message
  | f => "Failed to deserialize the JSON body into the target type: " ++ f.located

/-- **The response to a request that is no call.** A path that is no text is answered in plain
text. -/
def Rejection.response : Rejection → Response
  | path p => .text 400 ("Invalid URL: Invalid UTF-8 in " ++ Wire.ticked p.name)
  | query issue => (Problem.unprocessable (queryMessage issue)).response
  | identity fault => (Problem.unprocessable fault.message).response
  | noJson =>
    (Problem.unprocessable "Expected request with `Content-Type: application/json`").response
  | tooLong =>
    (Problem.unprocessable "Failed to buffer the request body: length limit exceeded").response
  | body fault => (Problem.unprocessable (bodyMessage fault)).response
  | noParam p =>
    (Problem.internal ("Route is missing path parameter '" ++ p.name ++ "'")).response
  | noBindings => (Problem.internal "Binding operations are not configured").response

/-! ## Parts of a request -/

/-- The parameters of a path. -/
abbrev Params := List (Param × String)

/-- The texts of the parameters, unless one is no text. -/
def decodeParams : RawParams → Except Rejection Params
  | [] => .ok []
  | (p, raw) :: rest =>
    match percentText? raw with
    | none => .error (.path p)
    | some s => (decodeParams rest).map ((p, s) :: ·)

/-- The text of a parameter. -/
def Params.get? (p : Param) : Params → Option String
  | [] => none
  | (q, s) :: rest => if q = p then some s else Params.get? p rest

/-- The text of a parameter that an operation asks for. -/
def Params.require (ps : Params) (p : Param) : Except Rejection String :=
  match ps.get? p with
  | some s => .ok s
  | none => .error (.noParam p)

/-- Whether a platform can wait for an operation in the background. -/
structure AcceptsIncomplete where
  accepted : Bool

instance : Wire.Message AcceptsIncomplete where
  shape := .record "AcceptsIncompleteParams" <|
    .cons "accepts_incomplete" (.flag false) .filled .nil
  ofValue := fun (accepted, _) => ⟨accepted⟩
  toValue := fun a => (a.accepted, ())

/-- Reads the query of a request. -/
def queryAs (α : Type) [Wire.Message α] (r : Request) : Except Rejection α :=
  (Wire.decodeForm α (parseQuery r.query)).mapError .query

/-- The flag for operations in the background. -/
def acceptsIncomplete (r : Request) : Except Rejection Bool :=
  (queryAs AcceptsIncomplete r).map (·.accepted)

/-- The name of the header with the identity of a request. -/
def requestIdentityHeader : String := "X-Broker-API-Request-Identity"

/-- The name of the header with the place of a platform's own interface. -/
def apiInfoLocationHeader : String := "X-Api-Info-Location"

/-- The identity in the headers of a request, if there is one. -/
def originatingIdentity (r : Request) : Except Rejection (Option OriginatingIdentity) :=
  match r.headerText? OriginatingIdentity.headerName with
  | none => .ok none
  | some value =>
    match OriginatingIdentity.parse value.toList with
    | .ok i => .ok (some i)
    | .error fault => .error (.identity fault)

/-- What a request carries whatever its operation. -/
def envelope (ps : Params) (r : Request) : Except Rejection Envelope :=
  (originatingIdentity r).map fun identity => {
    platformInstanceId := ps.get? .platformId
    apiInfoLocation := r.headerText? apiInfoLocationHeader
    originatingIdentity := identity
    requestIdentity := r.headerText? requestIdentityHeader }

/-- The body of a request is said to be JSON. -/
def saysJson (r : Request) : Bool :=
  ((r.headerText? "content-type").bind fun s => MediaType.parse? s.toList).any (·.isJson)

/-- The number of bytes that a body may have. -/
def bodyLimit : Nat := 2 * 1024 * 1024

/-- Reads the body of a request. What stands behind its first value does not matter, but counts. -/
def bodyAs (α : Type) [Wire.Message α] (r : Request) : Except Rejection α :=
  if !saysJson r then .error .noJson
  else if bodyLimit < r.body.length then .error .tooLong
  else (Wire.decodeFront α r.body).mapError .body

/-! ## Calls -/

/-- A request about an instance. -/
def inbound (ps : Params) (asyncAccepted : Bool) (envelope : Envelope) (body : β) :
    Except Rejection (Inbound β) := do
  let instanceId ← ps.require .instanceId
  pure { instanceId, asyncAccepted, envelope, body }

/-- A request about a binding. -/
def bindingInbound (ps : Params) (asyncAccepted : Bool) (envelope : Envelope) (body : β) :
    Except Rejection (BindingInbound β) := do
  let instanceId ← ps.require .instanceId
  let bindingId ← ps.require .bindingId
  pure { instanceId, bindingId, asyncAccepted, envelope, body }

/-- The flag of an operation: only what changes a resource looks at it. -/
def asyncFlag (op : Operation) (r : Request) : Except Rejection Bool :=
  match op with
  | .getInstance | .pollInstance | .getBinding | .pollBinding => .ok false
  | _ => acceptsIncomplete r

/-- **The call that a request makes**, or the first thing wrong with it. -/
def call (op : Operation) (raw : RawParams) (r : Request) : Except Rejection Call := do
  let ps ← decodeParams raw
  let accepted ← asyncFlag op r
  let env ← envelope ps r
  match op with
  | .createInstance =>
    let body ← bodyAs Instance.CreateBody r
    .createInstance <$> inbound ps accepted env body
  | .updateInstance =>
    let body ← bodyAs Instance.UpdateBody r
    .updateInstance <$> inbound ps accepted env body
  | .deleteInstance =>
    let query ← queryAs EntryQuery r
    .deleteInstance <$> inbound ps accepted env query
  | .getInstance => .getInstance <$> inbound ps accepted env ()
  | .pollInstance =>
    let query ← queryAs PollQuery r
    .pollInstance <$> inbound ps accepted env query
  | .createBinding =>
    let body ← bodyAs Binding.CreateBody r
    .createBinding <$> bindingInbound ps accepted env body
  | .deleteBinding =>
    let query ← queryAs EntryQuery r
    .deleteBinding <$> bindingInbound ps accepted env query
  | .getBinding => .getBinding <$> bindingInbound ps accepted env ()
  | .pollBinding =>
    let query ← queryAs PollQuery r
    .pollBinding <$> bindingInbound ps accepted env query

end Brokerage.Http
