import Brokerage.Http.Message
import Brokerage.Answer

/-!
# Problems

* `Http.Problem`: a status and words for a request that cannot be dealt with, perhaps with a code
  for programs and the cause behind it. The cause is for logs and no part of the response.
* `Problem.response`: the response that tells of a problem.
-/

namespace Brokerage.Http

/-- Why a request cannot be dealt with. -/
structure Problem where
  status : Nat
  message : String
  code : Option String := none
  cause : Option String := none
deriving DecidableEq, Repr

namespace Problem

/-- The problem with a code. -/
def withCode (p : Problem) (code : String) : Problem := { p with code := some code }

/-- The problem with a cause. -/
def withCause (p : Problem) (cause : String) : Problem := { p with cause := some cause }

/-- A request that was understood and cannot be followed. -/
def unprocessable (message : String) : Problem := { status := 422, message }

/-- A failure of the broker itself. -/
def internal (message : String) : Problem := { status := 500, message }

/-- A version of the protocol that the broker does not speak. -/
def unsupportedVersion (expected : String) (provided : Option String) : Problem where
  status := 412
  message := "The provided service broker API version is not supported: expected version=" ++
    expected ++ ", provided version=" ++ provided.getD "null"

/-- A failure that callers are told nothing about. -/
def ofCause (cause : String) : Problem := (internal "An internal error occurred").withCause cause

/-- The problem in a log. -/
def describe (p : Problem) : String := "[" ++ toString p.status ++ "] " ++ p.message

/-- The body of the response. -/
def body (p : Problem) : ErrorBody where
  error := p.code
  description := p.message

/-- **The response that tells of the problem.** -/
def response (p : Problem) : Response := .json p.status (Wire.encode p.body)

end Problem

end Brokerage.Http
