import Brokerage.Http.Server
import Brokerage.Wire.Emission

/-!
# Writing the body of an answer

* `Body.render`: the JSON value of a body, if it has one.
* `Http.outcomeResponse`: the response to an outcome. A body without a value is a failure of the server
  itself.
-/

namespace Brokerage

/-- The value of a body, as far as what it tells can be written. An empty one is an object without
members. -/
def Body.render [Wire.Message ρ] : Body ρ → Except Wire.EmissionFault Json
  | .empty => .ok (.object [])
  | .json response => (Wire.emit response).render
  | .error e => (Wire.emit e).render

namespace Http

/-- The problem with a body that has no value. -/
def Problem.unwritable (fault : Wire.EmissionFault) : Problem :=
  (internal "Failed to serialize response").withCause fault.message

/-- **The response to an outcome**: its status with its body, if the body can be written. -/
def outcomeResponse [Brokerage.Response ρ] (op : Operation) (outcome : Outcome ρ) : Response :=
  let answer := Answer.ofOutcome op outcome
  match answer.body.render with
  | .ok body => .json answer.status body
  | .error fault => (Problem.unwritable fault).response

end Http

end Brokerage
