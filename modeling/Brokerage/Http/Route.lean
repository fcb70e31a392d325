import Brokerage.Http.Message
import Brokerage.Operation

/-!
# Routes

* `Http.Route`: a pattern of path segments, and what each method mounted on it does.
* `Http.Route.match?`: the parameters of a path that fits a pattern.
* `Http.Table`: a list of routes; `Table.find?` finds the one that a path fits.
* `Http.brokerTable`: the routes of a broker: each one twice, with and without the segment of a
  platform in front; those of bindings only where they are kept.

Segments are compared as they are written. A parameter at the end of a pattern needs a segment that
is not empty.
-/

namespace Brokerage.Http

/-- A parameter of a path. -/
inductive Param where
  | platformId
  | instanceId
  | bindingId
  /-- A parameter that no operation asks for. -/
  | other
deriving DecidableEq, Repr

/-- The name of a parameter in complaints. -/
def Param.name : Param → String
  | .platformId => "platform_instance_id"
  | .instanceId => "instance_id"
  | .bindingId => "binding_id"
  | .other => "other"

/-- A segment of a pattern. -/
inductive Segment where
  | literal (s : String)
  | param (p : Param)
deriving DecidableEq, Repr

/-- A method that a route can be mounted for. -/
inductive Method where
  | get
  | put
  | patch
  | delete
deriving DecidableEq, Repr

/-- The methods that a request may name in order to reach one. -/
def Method.names : Method → List String
  | .get => ["GET", "HEAD"]
  | .put => ["PUT"]
  | .patch => ["PATCH"]
  | .delete => ["DELETE"]

/-- The method of a request. A request for the head of a response is one for the response. -/
def Method.ofName? (s : String) : Option Method :=
  [Method.get, .put, .patch, .delete].find? fun m => m.names.contains s

/-- What a route leads to. -/
inductive Endpoint where
  | catalog
  | operation (op : Operation)
deriving DecidableEq, Repr

/-- A route. -/
structure Route where
  pattern : List Segment
  /-- What each mounted method does. -/
  methods : List (Method × Endpoint)
deriving DecidableEq, Repr

/-- The parameters of a path, as they are written. -/
abbrev RawParams := List (Param × List Char)

/-- The parameters of segments that fit a pattern. -/
def matchSegments : List Segment → List (List Char) → Option RawParams
  | [], [] => some []
  | .literal s :: pattern, seg :: segs =>
    if seg = s.toList then matchSegments pattern segs else none
  | .param p :: pattern, seg :: segs =>
    if seg = [] ∧ pattern = [] then none
    else (matchSegments pattern segs).map ((p, seg) :: ·)
  | _, _ => none

/-- The parameters of a path that fits the route. -/
def Route.match? (r : Route) (path : List Char) : Option RawParams :=
  (segments path).bind (matchSegments r.pattern)

/-- What a method of the route leads to. -/
def Route.endpoint? (r : Route) (m : Method) : Option Endpoint :=
  (r.methods.find? (·.1 = m)).map (·.2)

/-- The methods that a request may name on the route. -/
def Route.allowed (r : Route) : List String := r.methods.flatMap fun m => m.1.names

/-- A list of routes. -/
abbrev Table := List Route

/-- The route that a path fits, with its parameters. -/
def Table.find? (t : Table) (path : List Char) : Option (Route × RawParams) :=
  t.findSome? fun r => (r.match? path).map (r, ·)

/-! ## The routes of a broker -/

/-- The segments of all instances. -/
def instancesPattern : List Segment := [.literal "v2", .literal "service_instances"]

/-- The segments of one instance. -/
def instancePattern : List Segment := instancesPattern ++ [.param .instanceId]

/-- The segments of one binding. -/
def bindingPattern : List Segment :=
  instancePattern ++ [.literal "service_bindings", .param .bindingId]

/-- The segment that asks after the last operation. -/
def pollSegment : Segment := .literal "last_operation"

/-- The route of the catalog. -/
def catalogRoute : Route := ⟨[.literal "v2", .literal "catalog"], [(.get, .catalog)]⟩

/-- The routes of instances. -/
def instanceRoutes : Table :=
  [⟨instancePattern,
      [(.get, .operation .getInstance), (.put, .operation .createInstance),
        (.patch, .operation .updateInstance), (.delete, .operation .deleteInstance)]⟩,
    ⟨instancePattern ++ [pollSegment], [(.get, .operation .pollInstance)]⟩]

/-- The routes of bindings. -/
def bindingRoutes : Table :=
  [⟨bindingPattern,
      [(.get, .operation .getBinding), (.put, .operation .createBinding),
        (.delete, .operation .deleteBinding)]⟩,
    ⟨bindingPattern ++ [pollSegment], [(.get, .operation .pollBinding)]⟩]

/-- The routes without a platform. -/
def plainTable (bindings : Bool) : Table :=
  catalogRoute :: instanceRoutes ++ if bindings then bindingRoutes else []

/-- The route with the segment of a platform in front. -/
def Route.underPlatform (r : Route) : Route := { r with pattern := .param .platformId :: r.pattern }

/-- **The routes of a broker.** -/
def brokerTable (bindings : Bool) : Table :=
  plainTable bindings ++ (plainTable bindings).map (·.underPlatform)

end Brokerage.Http
