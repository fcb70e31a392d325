import Brokerage.Http.Extract
import Brokerage.Session

/-!
# The server

* `Http.Reply`: a response, and the report of the call that the request made, if it made one.
* `Http.Gate`: what may turn a request away; `versionGate` asks for a version of the protocol.
* `Http.Table.handle`: the reply to a request on the routes of a table behind a gate.
* `Http.app`: the server of a broker, with the echo of the request's identity.
-/

namespace Brokerage.Http

/-- What becomes of a request: the response, and the report of the call that it made. -/
structure Reply where
  response : Response
  report : Option Report := none

/-- **The response that carries an answer.** Here the response of a service is written. -/
def answerResponse [Wire.Writable ρ] (a : Answer ρ) : Response := .json a.status a.body.toJson

/-- Carries out a call. -/
def perform (b : Broker) (c : Call) : Reply :=
  match b.perform? c with
  | some report => ⟨answerResponse report.answer, some report⟩
  | none => ⟨Rejection.noBindings.response, none⟩

/-- Deals with a request at an endpoint. -/
def Endpoint.handle (e : Endpoint) (b : Broker) (raw : RawParams) (r : Request) : Reply :=
  match e with
  | .catalog => ⟨.json 200 (Wire.encode b.catalog), none⟩
  | .operation op =>
    match call op raw r with
    | .error rejection => ⟨rejection.response, none⟩
    | .ok c => perform b c

/-- The response to a path that fits no route. -/
def notFound : Response := ⟨404, [], .empty⟩

/-- The response to a method that a route is not mounted for. -/
def notAllowed : Response := ⟨405, [], .empty⟩

/-- The response with the names of the methods that could have been used. -/
def Response.withAllowed (r : Response) (methods : List String) : Response :=
  r.withHeader "allow" (Utf8.encode (",".intercalate methods).toList)

/-- Without its content, the reply to a request for the head of a response. -/
def Reply.headOnly (reply : Reply) (r : Request) : Reply :=
  if r.method = "HEAD" then { reply with response := reply.response.withoutContent } else reply

/-! ## Gates -/

/-- What stands in front of whatever a request reaches, and may turn the request away. -/
abbrev Gate := Request → Option Response

/-- The gate that lets every request pass. -/
def Gate.opened : Gate := fun _ => none

/-- The reply behind a gate. -/
def Gate.guard (g : Gate) (r : Request) (inner : Reply) : Reply :=
  match g r with
  | some response => ⟨response, none⟩
  | none => inner

/-- The name of the header with the version of the protocol. -/
def apiVersionHeader : String := "X-Broker-API-Version"

/-- The version that a request has to name, if it has to. -/
def expectedVersion? (apiVersion : String) : Option String :=
  if apiVersion = "*" then none else some apiVersion

/-- **The version gate**: another version, or none that can be read, is turned away. -/
def versionGate (apiVersion : String) : Gate := fun r =>
  match expectedVersion? apiVersion with
  | none => none
  | some expected =>
    let provided := r.headerText? apiVersionHeader
    if provided = some expected then none
    else some (Problem.unsupportedVersion expected provided).response

/-! ## Routes -/

/-- **Deals with a request on the routes of a table.** Every reply to a method that a route is not
mounted for names those that it is, also one from the gate. Only an endpoint keeps back the content
when the head of a response is asked for: a gate in front of nothing answers in full. -/
def Table.handle (t : Table) (g : Gate) (b : Broker) (r : Request) : Reply :=
  match t.find? r.path with
  | none => g.guard r ⟨notFound, none⟩
  | some (route, raw) =>
    match (Method.ofName? r.method).bind route.endpoint? with
    | none =>
      let reply := g.guard r ⟨notAllowed, none⟩
      { reply with response := reply.response.withAllowed route.allowed }
    | some endpoint => (g.guard r (endpoint.handle b raw r)).headOnly r

/-- The routes of a broker, nothing around them. -/
def serve (b : Broker) : Request → Reply := (brokerTable b.bindings.isSome).handle .opened b

/-! ## The server -/

/-- **The echo**: the response carries the identity of the request as it came. -/
def echoIdentity (inner : Request → Reply) (r : Request) : Reply :=
  match r.header? requestIdentityHeader with
  | none => inner r
  | some value =>
    { inner r with response := (inner r).response.withHeader requestIdentityHeader value }

/-- **The server of a broker.** -/
def app (apiVersion : String) (b : Broker) : Request → Reply :=
  echoIdentity ((brokerTable b.bindings.isSome).handle (versionGate apiVersion) b)

/-! ## Sessions -/

/-- The session after a request: what its call leaves behind is kept. -/
def afterReply (s : Session) (reply : Reply) : Session :=
  match reply.report with
  | none => s
  | some report => { s with ledger := s.ledger.record report }

end Brokerage.Http
