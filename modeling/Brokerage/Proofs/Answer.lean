import Brokerage.Call

/-!
# What a status tells the platform

A platform takes 410 for the end of a deletion and 404 for a resource that is not there, so what
matters is which outcomes have these statuses and no others.

* `Operation.ResponseType`: the responses of an operation.
* `Operation.steering`: what of a response decides its status; `status_eq` says that nothing else does.
* `Operation.TellsDeleted`: a response to a poll that tells of a deletion that has succeeded.
* `failureStatus_eq_gone`, `failureStatus_eq_notFound`, `failureStatus_success`: the failures with
  status 410, with status 404, and with the status of a success.
* `Operation.view`, `Answer.written_view`: a response of any operation is written as the response itself.
* `answer_tells`: **the outcomes behind a status**, the failures that pass for a success, and the
  body of an answer.
-/

namespace Brokerage

/-- What of a response may decide a status. -/
structure Steering where
  isAsync : Bool := false
  existed : Bool := false
  isDelete : Bool := false
  state : Option OperationState := none
deriving DecidableEq, Repr

namespace Operation

/-- The responses of an operation. -/
@[reducible]
def ResponseType : Operation → Type
  | createInstance => Instance.CreateResponse
  | updateInstance => Instance.UpdateResponse
  | deleteInstance => Instance.DeleteResponse
  | getInstance => Instance.GetResponse
  | pollInstance => Instance.PollResponse
  | createBinding => Binding.CreateResponse
  | deleteBinding => Binding.DeleteResponse
  | getBinding => Binding.GetResponse
  | pollBinding => Binding.PollResponse

instance : (op : Operation) → Response op.ResponseType
  | createInstance => inferInstanceAs (Response Instance.CreateResponse)
  | updateInstance => inferInstanceAs (Response Instance.UpdateResponse)
  | deleteInstance => inferInstanceAs (Response Instance.DeleteResponse)
  | getInstance => inferInstanceAs (Response Instance.GetResponse)
  | pollInstance => inferInstanceAs (Response Instance.PollResponse)
  | createBinding => inferInstanceAs (Response Binding.CreateResponse)
  | deleteBinding => inferInstanceAs (Response Binding.DeleteResponse)
  | getBinding => inferInstanceAs (Response Binding.GetResponse)
  | pollBinding => inferInstanceAs (Response Binding.PollResponse)

/-- What of a response decides the status: its flags, and the state of a poll. -/
def steering : (op : Operation) → op.ResponseType → Steering
  | createInstance, r => { isAsync := r.isAsync, existed := r.existed }
  | updateInstance, r => { isAsync := r.isAsync }
  | deleteInstance, r => { isAsync := r.isAsync }
  | getInstance, _ => {}
  | pollInstance, r => { isDelete := r.isDelete, state := some r.state }
  | createBinding, r => { isAsync := r.isAsync, existed := r.existed }
  | deleteBinding, r => { isAsync := r.isAsync }
  | getBinding, _ => {}
  | pollBinding, r => { isDelete := r.isDelete, state := some r.state }

/-- The status that responses are steered to. -/
def steeredStatus (op : Operation) (s : Steering) : Nat :=
  match op with
  | createInstance | createBinding => createdStatus s.isAsync s.existed
  | updateInstance | deleteInstance | deleteBinding => acceptedStatus s.isAsync
  | getInstance | getBinding => 200
  | pollInstance | pollBinding => polledStatus (s.state.getD .inProgress) s.isDelete

/-- The status of a response is the one that it is steered to. -/
theorem status_eq (op : Operation) (r : op.ResponseType) :
    Response.status r = op.steeredStatus (op.steering r) := by
  cases op <;> rfl

/-- The response tells of a deletion that has succeeded. Only polls do. -/
def TellsDeleted : (op : Operation) → op.ResponseType → Prop
  | pollInstance, r => r.state = .succeeded ∧ r.isDelete = true
  | pollBinding, r => r.state = .succeeded ∧ r.isDelete = true
  | _, _ => False

/-- What reads a resource does not delete it. -/
theorem isDelete_of_isGet {op : Operation} (h : op.isGet = true) : op.isDelete = false := by
  cases op <;> first | rfl | exact absurd h (by decide)

end Operation

/-! ## Success -/

theorem createdStatus_success (isAsync existed : Bool) :
    200 ≤ createdStatus isAsync existed ∧ createdStatus isAsync existed ≤ 202 := by
  cases isAsync <;> cases existed <;> decide

theorem acceptedStatus_success (isAsync : Bool) :
    200 ≤ acceptedStatus isAsync ∧ acceptedStatus isAsync ≤ 202 := by
  cases isAsync <;> decide

/-- **The status of a response** is 410 if it tells of a deletion that has succeeded, and the status
of a success if not. -/
theorem responseStatus_cases (op : Operation) (r : op.ResponseType) :
    (op.TellsDeleted r ∧ Response.status r = 410) ∨
      (¬op.TellsDeleted r ∧ 200 ≤ Response.status r ∧ Response.status r ≤ 202) := by
  have polled : ∀ (state : OperationState) (isDelete : Bool),
      ((state = .succeeded ∧ isDelete = true) ∧ polledStatus state isDelete = 410) ∨
        (¬(state = .succeeded ∧ isDelete = true) ∧
          200 ≤ polledStatus state isDelete ∧ polledStatus state isDelete ≤ 202) := by
    intro state isDelete
    unfold polledStatus
    by_cases h : state = .succeeded ∧ isDelete = true
    · rw [if_pos h]; exact .inl ⟨h, rfl⟩
    · rw [if_neg h]; exact .inr ⟨h, by decide⟩
  cases op with
  | createInstance => exact .inr ⟨id, createdStatus_success _ _⟩
  | updateInstance => exact .inr ⟨id, acceptedStatus_success _⟩
  | deleteInstance => exact .inr ⟨id, acceptedStatus_success _⟩
  | getInstance => exact .inr ⟨id, Nat.le_refl 200, Nat.le_add_right 200 2⟩
  | pollInstance => exact polled r.state r.isDelete
  | createBinding => exact .inr ⟨id, createdStatus_success _ _⟩
  | deleteBinding => exact .inr ⟨id, acceptedStatus_success _⟩
  | getBinding => exact .inr ⟨id, Nat.le_refl 200, Nat.le_add_right 200 2⟩
  | pollBinding => exact polled r.state r.isDelete

/-- Having nothing to say is a success. -/
theorem emptyStatus_success (op : Operation) :
    200 ≤ Response.emptyStatus op.ResponseType ∧ Response.emptyStatus op.ResponseType ≤ 202 := by
  cases op <;> decide

/-! ## Failure -/

theorem missingStatus_eq_gone (op : Operation) (resource : Resource) :
    missingStatus op resource = 410 ↔ op.isDelete = true ∧ resource = op.resource := by
  unfold missingStatus
  split
  · next h => simp [Operation.isDelete_of_isGet h]
  · split
    · next h => simp [h]
    · next h => simp [h]

theorem missingStatus_eq_notFound (op : Operation) (resource : Resource) :
    missingStatus op resource = 404 ↔ op.isGet = true := by
  unfold missingStatus
  split
  · next h => simp [h]
  · next h => split <;> simp [h]

theorem missingStatus_range (op : Operation) (resource : Resource) :
    404 ≤ missingStatus op resource ∧ missingStatus op resource ≤ 422 := by
  unfold missingStatus
  split
  · decide
  · split <;> decide

theorem chosenStatus_range (status : Option UInt16) :
    100 ≤ chosenStatus status ∧ chosenStatus status ≤ 999 := by
  unfold chosenStatus
  split
  · split
    · assumption
    · decide
  · decide

/-- A status of three digits other than the default one was chosen. -/
theorem chosenStatus_eq_iff {s : UInt16} (hs : 100 ≤ s.toNat ∧ s.toNat ≤ 999) (hne : s.toNat ≠ 500)
    (status : Option UInt16) : chosenStatus status = s.toNat ↔ status = some s := by
  unfold chosenStatus
  cases status with
  | none => simp; omega
  | some t =>
    rw [Option.some.injEq, ← UInt16.toNat_inj]
    simp only
    split <;> omega

theorem chosenStatus_success (status : Option UInt16) :
    (200 ≤ chosenStatus status ∧ chosenStatus status ≤ 299) ↔
      ∃ s, status = some s ∧ 200 ≤ s.toNat ∧ s.toNat ≤ 299 := by
  unfold chosenStatus
  cases status with
  | none => simp
  | some t =>
    simp only [Option.some.injEq, exists_eq_left']
    split <;> omega

/-- The failure is one of the service's own making that carries a status. -/
def Failure.Carries (f : Failure) (s : UInt16) : Prop :=
  ∃ reason code, f.root = .unclassified reason code (some s)

/-- **The failures with status 410**: the resource to delete does not exist, or 410 was chosen. -/
theorem failureStatus_eq_gone (op : Operation) (f : Failure) :
    failureStatus op f = 410 ↔
      (op.isDelete = true ∧ ∃ id, f.root = .resourceDoesNotExist op.resource id) ∨
        f.Carries 410 := by
  unfold failureStatus Failure.Carries
  cases f.root with
  | resourceDoesNotExist resource id => simp [missingStatus_eq_gone]
  | unclassified reason code status =>
    have := chosenStatus_eq_iff (s := 410) (by decide) (by decide) status
    simpa using this
  | _ => simp

/-- **The failures with status 404**: an operation is in progress, what is read does not exist, or
404 was chosen. -/
theorem failureStatus_eq_notFound (op : Operation) (f : Failure) :
    failureStatus op f = 404 ↔
      (∃ operation, f.root = .operationInProgress operation) ∨
        (op.isGet = true ∧ ∃ resource id, f.root = .resourceDoesNotExist resource id) ∨
        f.Carries 404 := by
  unfold failureStatus Failure.Carries
  cases f.root with
  | resourceDoesNotExist resource id => simp [missingStatus_eq_notFound]
  | unclassified reason code status =>
    have := chosenStatus_eq_iff (s := 404) (by decide) (by decide) status
    simpa using this
  | _ => simp

/-- **The failures that pass for a success**: a status from 200 to 299 was chosen. -/
theorem failureStatus_success (op : Operation) (f : Failure) :
    (200 ≤ failureStatus op f ∧ failureStatus op f ≤ 299) ↔
      ∃ s, f.Carries s ∧ 200 ≤ s.toNat ∧ s.toNat ≤ 299 := by
  unfold failureStatus Failure.Carries
  cases f.root with
  | resourceDoesNotExist resource id =>
    have := missingStatus_range op resource
    simp; omega
  | unclassified reason code status => simpa using chosenStatus_success status
  | _ => simp

theorem failureStatus_range (op : Operation) (f : Failure) :
    100 ≤ failureStatus op f ∧ failureStatus op f ≤ 999 := by
  unfold failureStatus
  cases f.root with
  | resourceDoesNotExist resource id =>
    have := missingStatus_range op resource
    simp only; omega
  | unclassified reason code status => exact chosenStatus_range status
  | _ => simp

/-! ## Answers -/

/-- A response as one of any operation. -/
def Operation.view : (op : Operation) → op.ResponseType → AnyResponse
  | .createInstance => .createInstance
  | .updateInstance => .updateInstance
  | .deleteInstance => .deleteInstance
  | .getInstance => .getInstance
  | .pollInstance => .pollInstance
  | .createBinding => .createBinding
  | .deleteBinding => .deleteBinding
  | .getBinding => .getBinding
  | .pollBinding => .pollBinding

/-- A response of any operation is written as the response itself. -/
theorem Operation.toJson_view (op : Operation) (r : op.ResponseType) :
    Wire.Writable.toJson (op.view r) = Wire.encode r := by
  cases op <;> rfl

/-- So is the body of an answer. -/
theorem Answer.written_view {op : Operation} (a : Answer op.ResponseType) :
    (a.map op.view).body.written = a.body.written := by
  rw [Answer.map_body]
  exact a.body.written_map op.toJson_view

theorem Answer.toJson_body_view {op : Operation} (a : Answer op.ResponseType) :
    (a.map op.view).body.toJson = a.body.toJson := by
  unfold Body.toJson
  rw [a.written_view]

namespace Answer

variable {ρ : Type} [Response ρ] (op : Operation)

@[simp] theorem ofOutcome_error (f : Failure) :
    ofOutcome op (.error f : Outcome ρ) = ⟨failureStatus op f, .error (.ofFailure f)⟩ := rfl

@[simp] theorem ofOutcome_none :
    ofOutcome op (.ok none : Outcome ρ) = ⟨Response.emptyStatus ρ, .empty⟩ := rfl

@[simp] theorem ofOutcome_some (r : ρ) :
    ofOutcome op (.ok (some r)) = ⟨Response.status r, .json r⟩ := rfl

end Answer

/-- **What an answer tells the platform.** Its status is 410 only for a deletion: a poll tells that
it has succeeded, or the resource to delete does not exist, unless the service chose the status
itself. Its status is 404 only where something is in progress or cannot be read. A failure passes
for a success only by the service's choice. The status has three digits, and the body is that of a
failure, of a response or of silence, as the outcome is; a response is in it unchanged, and written as
its message. -/
theorem answer_tells (op : Operation) (o : Outcome op.ResponseType) :
    ((Answer.ofOutcome op o).status = 410 ↔
        (∃ r, o = .ok (some r) ∧ op.TellsDeleted r) ∨
          ∃ f, o = .error f ∧
            ((op.isDelete = true ∧ ∃ id, f.root = .resourceDoesNotExist op.resource id) ∨
              f.Carries 410)) ∧
      (∀ f, o = .error f →
        ((200 ≤ (Answer.ofOutcome op o).status ∧ (Answer.ofOutcome op o).status ≤ 299) ↔
          ∃ s, f.Carries s ∧ 200 ≤ s.toNat ∧ s.toNat ≤ 299)) ∧
      ((Answer.ofOutcome op o).status = 404 ↔
        ∃ f, o = .error f ∧
          ((∃ operation, f.root = .operationInProgress operation) ∨
            (op.isGet = true ∧ ∃ resource id, f.root = .resourceDoesNotExist resource id) ∨
            f.Carries 404)) ∧
      (100 ≤ (Answer.ofOutcome op o).status ∧ (Answer.ofOutcome op o).status ≤ 999) ∧
      ((∃ e, (Answer.ofOutcome op o).body = .error e) ↔ ∃ f, o = .error f) ∧
      (∀ f, o = .error f → (Answer.ofOutcome op o).body = .error (.ofFailure f)) ∧
      (∀ r, o = .ok (some r) → (Answer.ofOutcome op o).body = .json r ∧
        (Answer.ofOutcome op o).body.toJson = Wire.encode r) ∧
      (o = .ok none → (Answer.ofOutcome op o).body = .empty) := by
  cases o with
  | error f =>
    rw [Answer.ofOutcome_error]
    refine ⟨?_, ?_, ?_, failureStatus_range op f, ?_, ?_, nofun, nofun⟩
    · simpa using failureStatus_eq_gone op f
    · rintro g ⟨⟩
      exact failureStatus_success op f
    · simpa using failureStatus_eq_notFound op f
    · exact ⟨fun _ => ⟨f, rfl⟩, fun _ => ⟨_, rfl⟩⟩
    · rintro g ⟨⟩
      rfl
  | ok response =>
    cases response with
    | none =>
      rw [Answer.ofOutcome_none]
      have hs := emptyStatus_success op
      refine ⟨?_, nofun, ?_, ?_, by simp, nofun, nofun, fun _ => rfl⟩ <;> simp <;> omega
    | some r =>
      rw [Answer.ofOutcome_some]
      refine ⟨?_, nofun, ?_, ?_, by simp, nofun, ?_, nofun⟩
      · rcases responseStatus_cases op r with ⟨hr, hs⟩ | ⟨hr, hs⟩
        · simp [hr, hs]
        · simp [hr]; omega
      · rcases responseStatus_cases op r with ⟨hr, hs⟩ | ⟨hr, hs⟩ <;> simp <;> omega
      · rcases responseStatus_cases op r with ⟨hr, hs⟩ | ⟨hr, hs⟩ <;> simp only <;> omega
      · rintro q ⟨⟩
        exact ⟨rfl, rfl⟩

end Brokerage
