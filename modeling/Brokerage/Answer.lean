import Brokerage.Wire.ToJson
import Brokerage.Instance
import Brokerage.Binding

/-!
# Answers

What an outcome tells the platform: a status and a body.

* `Outcome`: what a service returns.
* `Response`: the types of responses, each with the statuses of its answers.
* `failureStatus`, `ErrorBody.ofFailure`: status and body of a failure, both decided by its root.
* `Answer.ofOutcome`: the answer to an outcome. It keeps the response, flags included.
* `Body.written`, `Body.toJson`: a body with its response written, which does not show the flags.
-/

namespace Brokerage

open Wire (Shape Message Writable)

/-- What a service returns: a failure, or a response, or nothing to say. -/
abbrev Outcome (ρ : Type) := Except Failure (Option ρ)

/-! ## Success -/

/-- A type of responses. Only flags and state decide a status. -/
class Response (ρ : Type) extends Message ρ, Inhabited ρ where
  /-- The status of a response. -/
  status : ρ → Nat
  /-- The status when the service has nothing to say. -/
  emptyStatus : Nat

/-- The status of a creation. -/
def createdStatus (isAsync existed : Bool) : Nat :=
  if isAsync then 202 else if existed then 200 else 201

/-- The status of what may go on in the background. -/
def acceptedStatus (isAsync : Bool) : Nat := if isAsync then 202 else 200

/-- The status of a poll: a deletion that succeeded leaves nothing behind. -/
def polledStatus (state : OperationState) (isDelete : Bool) : Nat :=
  if state = .succeeded ∧ isDelete then 410 else 200

instance : Response Instance.CreateResponse where
  status r := createdStatus r.isAsync r.existed
  emptyStatus := 201

instance : Response Instance.UpdateResponse where
  status r := acceptedStatus r.isAsync
  emptyStatus := 200

instance : Response Instance.DeleteResponse where
  status r := acceptedStatus r.isAsync
  emptyStatus := 200

instance : Response Instance.GetResponse where
  status _ := 200
  emptyStatus := 200

instance : Response Instance.PollResponse where
  status r := polledStatus r.state r.isDelete
  emptyStatus := 200

instance : Response Binding.CreateResponse where
  status r := createdStatus r.isAsync r.existed
  emptyStatus := 201

instance : Response Binding.DeleteResponse where
  status r := acceptedStatus r.isAsync
  emptyStatus := 200

instance : Response Binding.GetResponse where
  status _ := 200
  emptyStatus := 200

instance : Response Binding.PollResponse where
  status r := polledStatus r.state r.isDelete
  emptyStatus := 200

/-! ## Failure -/

/-- The status of a missing resource: what is read is not found, what is deleted is gone, anything
else cannot be done. -/
def missingStatus (op : Operation) (resource : Resource) : Nat :=
  if op.isGet then 404
  else if op.isDelete ∧ resource = op.resource then 410
  else 422

/-- The status a service chose, where it is one of three digits. -/
def chosenStatus (status : Option UInt16) : Nat :=
  match status with
  | some s => if 100 ≤ s.toNat ∧ s.toNat ≤ 999 then s.toNat else 500
  | none => 500

/-- **The status of a failure.** Hook wrappers do not matter. -/
def failureStatus (op : Operation) (f : Failure) : Nat :=
  match f.root with
  | .resourceDoesNotExist resource _ => missingStatus op resource
  | .resourceAlreadyExists _ _ => 409
  | .operationInProgress _ => 404
  | .catalogNotFound _ _ => 422
  | .updateNotSupported _ => 422
  | .invalidParameters _ => 422
  | .asyncRequired _ => 422
  | .concurrency _ => 422
  | .unclassified _ _ status => chosenStatus status
  | .hook _ _ => 500

/-- The body of an answer to a failure. -/
structure ErrorBody where
  /-- A code for programs. -/
  error : Option String := none
  description : String
  /-- The operation that is still in progress. -/
  operation : Option String := none
deriving DecidableEq, Repr

instance : Message ErrorBody where
  shape := .record "ErrorMessage" <|
    .cons "error" (.optional .text) .skipped <|
    .cons "description" .text .required <|
    .cons "operation" (.optional .text) .skipped .nil
  ofValue := fun (error, description, operation, _) => ⟨error, description, operation⟩
  toValue := fun b => (b.error, b.description, b.operation, ())

/-- **The body of a failure**, in the words of its root. -/
def ErrorBody.ofFailure (f : Failure) : ErrorBody :=
  match f.root with
  | .asyncRequired reason => ⟨some "AsyncRequired", reason, none⟩
  | .concurrency reason => ⟨some "ConcurrencyError", reason, none⟩
  | .operationInProgress op => ⟨none, (Failure.operationInProgress op).message, op⟩
  | .unclassified reason code _ => ⟨code, reason, none⟩
  | root => ⟨none, root.message, none⟩

/-! ## Answers -/

/-- The body of an answer. A response is as the service gave it. -/
inductive Body (ρ : Type) where
  | empty
  | json (response : ρ)
  | error (e : ErrorBody)

/-- The body with another response. -/
def Body.map (f : ρ → σ) : Body ρ → Body σ
  | .empty => .empty
  | .json response => .json (f response)
  | .error e => .error e

/-- The body with its response written. -/
def Body.written [Writable ρ] (b : Body ρ) : Body Json := b.map Writable.toJson

/-- The JSON value of a body; an empty one is an object without members. -/
def Body.toJson [Writable ρ] (b : Body ρ) : Json :=
  match b.written with
  | .empty => .object []
  | .json j => j
  | .error e => Wire.encode e

/-- A body is written alike, whatever its response is held as. -/
theorem Body.written_map [Writable ρ] [Writable σ] {f : ρ → σ}
    (hf : ∀ r, Writable.toJson (f r) = Writable.toJson r) (b : Body ρ) :
    (b.map f).written = b.written := by
  cases b with
  | json r => exact congrArg Body.json (hf r)
  | _ => rfl

/-- A status and a body. -/
structure Answer (ρ : Type) where
  status : Nat
  body : Body ρ

/-- The answer with another response. -/
def Answer.map (f : ρ → σ) (a : Answer ρ) : Answer σ := ⟨a.status, a.body.map f⟩

@[simp] theorem Answer.map_status (f : ρ → σ) (a : Answer ρ) : (a.map f).status = a.status := rfl

@[simp] theorem Answer.map_body (f : ρ → σ) (a : Answer ρ) : (a.map f).body = a.body.map f := rfl

/-- The answer to a failure. -/
def Answer.ofFailure (op : Operation) (f : Failure) : Answer ρ :=
  ⟨failureStatus op f, .error (.ofFailure f)⟩

/-- **The answer to an outcome.** -/
def Answer.ofOutcome [Response ρ] (op : Operation) : Outcome ρ → Answer ρ
  | .ok (some r) => ⟨Response.status r, .json r⟩
  | .ok none => ⟨Response.emptyStatus ρ, .empty⟩
  | .error f => .ofFailure op f

end Brokerage
