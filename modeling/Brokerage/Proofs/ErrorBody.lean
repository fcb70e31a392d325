import Brokerage.Answer

/-!
# The body of a failure

A platform is told of a failure in an object with a description, and perhaps a code and the name of an
operation beside it. All of it is read off the failure under the hook wrappers, so these show in logs
alone.

* `ErrorBody.members`, `ErrorBody.encode_eq`: the object that a body is written as.
* `Json.Describes`: an object with a description, with a code and an operation at most beside it, all of
  them texts. `describes_encode` says that every body is written as one.
* `Failure.root_wrap`, `Failure.message_wrap`: wrappers leave the root as it is, and each puts its phase
  in front of the message.
* `failureStatus_eq_internal`: an internal error is always one of the service's own making.
* `wrappers_stay_inside`: **hook wrappers decide nothing that a platform is told.**
-/

namespace Brokerage

/-! ## Written bodies -/

namespace ErrorBody

variable (e : ErrorBody)

/-- The members of a body as they are written: what is missing is left out. -/
def members : Json.Members :=
  e.error.toList.map (fun code => ("error", .text code)) ++
    ("description", .text e.description) ::
      e.operation.toList.map (fun operation => ("operation", .text operation))

/-- **A body is written as the object of its members.** -/
theorem encode_eq : Wire.encode e = .object e.members := by
  obtain ⟨error, description, operation⟩ := e
  cases error <;> cases operation <;> rfl

theorem lookup?_error : e.members.lookup? "error" = e.error.map .text := by
  obtain ⟨error, description, operation⟩ := e
  cases error <;> cases operation <;> simp [members, Json.Members.lookup?]

theorem lookup?_description : e.members.lookup? "description" = some (.text e.description) := by
  obtain ⟨error, description, operation⟩ := e
  cases error <;> simp [members, Json.Members.lookup?]

theorem lookup?_operation : e.members.lookup? "operation" = e.operation.map .text := by
  obtain ⟨error, description, operation⟩ := e
  cases error <;> cases operation <;> simp [members, Json.Members.lookup?]

end ErrorBody

/-- The names of the members that may stand in the body of a failure. -/
def problemNames : List String := ["error", "description", "operation"]

/-- An object that describes a problem: its description is the given text, and beside it there are a
code and an operation at most, texts too, none of them twice. -/
def Json.Describes (j : Json) (description : String) : Prop :=
  ∃ ms : Json.Members, j = .object ms ∧ ms.lookup? "description" = some (.text description) ∧
    (ms.map (·.1)).Sublist problemNames ∧ ∀ m ∈ ms, ∃ s, m.2 = .text s

/-- **Every body of a failure describes it.** -/
theorem ErrorBody.describes_encode (e : ErrorBody) : (Wire.encode e).Describes e.description := by
  refine ⟨e.members, e.encode_eq, e.lookup?_description, ?_, ?_⟩
  · obtain ⟨error, description, operation⟩ := e
    cases error <;> cases operation <;> simp [members, problemNames]
  · intro m hm
    simp only [members, List.mem_append, List.mem_cons, List.mem_map] at hm
    rcases hm with ⟨code, -, rfl⟩ | rfl | ⟨operation, -, rfl⟩
    · exact ⟨code, rfl⟩
    · exact ⟨e.description, rfl⟩
    · exact ⟨operation, rfl⟩

/-! ## Hook wrappers -/

namespace Failure

/-- Under all wrappers there is none. -/
theorem root_ne_hook (f : Failure) (phase : HookPhase) (cause : Failure) :
    f.root ≠ .hook phase cause := by
  induction f with
  | hook _ _ ih => exact ih
  | _ => exact nofun

variable (phases : List HookPhase) (f : Failure)

/-- **Wrappers leave the root as it is.** -/
theorem root_wrap : (f.wrap phases).root = f.root := by
  induction phases with
  | nil => rfl
  | cons phase rest ih => exact ih

/-- **Each wrapper puts its phase in front of the message**, the outermost first. -/
theorem message_wrap : (f.wrap phases).message =
    String.join (phases.map fun phase => phase.name ++ " flow failed: ") ++ f.message := by
  induction phases with
  | nil => simp [wrap]
  | cons phase rest ih =>
    have hstep : (f.wrap (phase :: rest)).message =
        phase.name ++ " flow failed: " ++ (f.wrap rest).message := rfl
    rw [hstep, ih, List.map_cons, String.join_cons]
    simp only [String.append_assoc]

end Failure

variable (op : Operation) (f : Failure)

/-- Of a failure, the status sees the root. -/
theorem failureStatus_of_root {f f' : Failure} (h : f.root = f'.root) :
    failureStatus op f = failureStatus op f' := by
  unfold failureStatus
  rw [h]

/-- **An internal error is one of the service's own making.** -/
theorem failureStatus_eq_internal (h : failureStatus op f = 500) :
    ∃ reason code status, f.root = .unclassified reason code status := by
  unfold failureStatus at h
  cases hroot : f.root with
  | unclassified reason code status => exact ⟨reason, code, status, rfl⟩
  | hook phase cause => exact absurd hroot (f.root_ne_hook phase cause)
  | resourceDoesNotExist resource id =>
    -- 404, 410 or 422
    rw [hroot] at h
    simp only [missingStatus] at h
    split at h
    · cases h
    · split at h <;> cases h
  | _ => rw [hroot] at h; cases h

namespace ErrorBody

/-- The words of a body are those of the root. -/
theorem description_ofFailure : (ofFailure f).description = f.root.message := by
  unfold ofFailure
  cases f.root <;> rfl

/-- **The failures with a code**: three kinds of roots have one. -/
theorem error_ofFailure : (ofFailure f).error.isSome = true ↔
    (∃ reason, f.root = .asyncRequired reason) ∨ (∃ reason, f.root = .concurrency reason) ∨
      ∃ reason code status, f.root = .unclassified reason (some code) status := by
  unfold ofFailure
  cases f.root with
  | unclassified reason code status => cases code <;> simp
  | _ => simp

/-- **The failures with an operation**: those of an operation in progress that has a name. -/
theorem operation_ofFailure (operation : String) :
    (ofFailure f).operation = some operation ↔ f.root = .operationInProgress (some operation) := by
  unfold ofFailure
  cases f.root <;> simp

end ErrorBody

/-- **Hook wrappers decide nothing that a platform is told.** However many of them stand around a
failure, the root is that of the failure and no wrapper, status and body are those of the failure, and
no status is owed to a wrapper. The body has the words of the root, a code for three kinds of roots, and
the operation that a root names as in progress. What wrappers change is the message for logs, in which
each puts its phase in front. -/
theorem wrappers_stay_inside (phases : List HookPhase) :
    (f.wrap phases).root = f.root ∧
      (∀ phase cause, (f.wrap phases).root ≠ .hook phase cause) ∧
      (failureStatus op (f.wrap phases) = failureStatus op f ∧
        (failureStatus op (f.wrap phases) = 500 →
          ∃ reason code status, f.root = .unclassified reason code status)) ∧
      ErrorBody.ofFailure (f.wrap phases) = ErrorBody.ofFailure f ∧
      (∃ ms : Json.Members, Wire.encode (ErrorBody.ofFailure (f.wrap phases)) = .object ms ∧
        ms.lookup? "description" = some (.text f.root.message) ∧
        ((ms.lookup? "error").isSome = true ↔
          (∃ reason, f.root = .asyncRequired reason) ∨ (∃ reason, f.root = .concurrency reason) ∨
            ∃ reason code status, f.root = .unclassified reason (some code) status) ∧
        ∀ value, ms.lookup? "operation" = some value ↔
          ∃ operation, f.root = .operationInProgress (some operation) ∧ value = .text operation) ∧
      (f.wrap phases).message =
        String.join (phases.map fun phase => phase.name ++ " flow failed: ") ++ f.message := by
  -- status and body look at the root and nothing else
  have hroot : (f.wrap phases).root = f.root := f.root_wrap phases
  have hbody : ErrorBody.ofFailure (f.wrap phases) = ErrorBody.ofFailure f := by
    unfold ErrorBody.ofFailure
    rw [hroot]
  refine ⟨hroot, (f.wrap phases).root_ne_hook, ⟨failureStatus_of_root op hroot, fun h => ?_⟩, hbody,
    ⟨(ErrorBody.ofFailure f).members, ?_, ?_, ?_, fun value => ?_⟩, f.message_wrap phases⟩
  · rw [← hroot]
    exact failureStatus_eq_internal op _ h
  · rw [hbody, ErrorBody.encode_eq]
  · rw [ErrorBody.lookup?_description, ErrorBody.description_ofFailure]
  · rw [ErrorBody.lookup?_error, Option.isSome_map, ErrorBody.error_ofFailure]
  · rw [ErrorBody.lookup?_operation, Option.map_eq_some_iff]
    simp only [ErrorBody.operation_ofFailure, @eq_comm _ value]

end Brokerage
