import Brokerage.Proofs.Answer
import Brokerage.Proofs.Related
import Brokerage.Sample

/-!
# Bindings mirror instances

Creations, deletions, reads and polls are carried out for bindings as they are for instances, by types
and functions of their own. So a run about an instance can be told about a binding: every failure that
speaks of an instance speaks of a binding instead, and the other way round, in hooks and in services,
under any number of hook wrappers.

* `Failure.swapped`: the same failure of the other resource.
* `Operation.Mirrors`: an operation does to bindings what another does to instances, with the same
  statuses; `failureStatus_swapped` says that this holds for failures.
* `InstanceScript.Mirrors`, `Call.Mirrors`: a service for bindings answers with the flags and the state
  of one for instances, and a call about a binding does what one about an instance does.
* `Report.Mirrors`: two reports agree in status, kind of body, hooks that ran and calls of the service.
* `bindings_mirror_instances`: **calls about bindings take the course of calls about instances.**
-/

namespace Brokerage

variable {α β : Type}

/-! ## The other resource -/

/-- The failure, of the other resource. What no resource is named in stays as it is. -/
def Failure.swapped : Failure → Failure
  | resourceDoesNotExist resource id => .resourceDoesNotExist resource.swap id
  | resourceAlreadyExists resource id => .resourceAlreadyExists resource.swap id
  | hook phase cause => .hook phase cause.swapped
  | f => f

theorem Failure.renaming_swapped : Failure.Renaming Failure.swapped where
  hook _ _ := rfl
  hookFailure f := by cases f <;> rfl

theorem Failure.root_swapped (f : Failure) : f.swapped.root = f.root.swapped := by
  induction f with
  | hook phase cause ih => exact ih
  | _ => rfl

/-- A failure of the catalog names no resource. -/
theorem Catalog.swapped_of_require {c : Catalog} {serviceId planId : String} {f : Failure}
    (h : c.require serviceId planId = .error f) : f.swapped = f := by
  unfold require requireService requirePlan at h
  cases hservice : c.service? serviceId with
  | none =>
    rw [hservice] at h
    cases h
    rfl
  | some d =>
    simp only [hservice] at h
    cases hplan : d.plan? planId with
    | none =>
      rw [hplan] at h
      cases h
      rfl
    | some p =>
      rw [hplan] at h
      cases h

/-- The registries in which the hooks of bindings are those of instances, about the other resource. -/
def FlowRegistries.mirrored (flows : FlowRegistries) : FlowRegistries :=
  { flows with
    createBinding := flows.createInstance.renamed Failure.swapped
    deleteBinding := flows.deleteInstance.renamed Failure.swapped
    pollBinding := flows.pollInstance.renamed Failure.swapped }

/-! ## Statuses -/

/-- An operation does to bindings what another does to instances. Flags and state steer both to the
same status, and so does having nothing to say. -/
structure Operation.Mirrors (op op' : Operation) : Prop where
  isGet : op'.isGet = op.isGet
  isDelete : op'.isDelete = op.isDelete
  resource : op'.resource = op.resource.swap
  steeredStatus : ∀ s, op'.steeredStatus s = op.steeredStatus s
  emptyStatus : Response.emptyStatus op'.ResponseType = Response.emptyStatus op.ResponseType

namespace Operation

theorem mirrors_create : Mirrors .createInstance .createBinding := ⟨rfl, rfl, rfl, fun _ => rfl, rfl⟩

theorem mirrors_delete : Mirrors .deleteInstance .deleteBinding := ⟨rfl, rfl, rfl, fun _ => rfl, rfl⟩

theorem mirrors_get : Mirrors .getInstance .getBinding := ⟨rfl, rfl, rfl, fun _ => rfl, rfl⟩

theorem mirrors_poll : Mirrors .pollInstance .pollBinding := ⟨rfl, rfl, rfl, fun _ => rfl, rfl⟩

end Operation

/-- **The statuses of failures do not tell the resources apart.** -/
theorem failureStatus_swapped {op op' : Operation} (hop : op.Mirrors op') (f : Failure) :
    failureStatus op' f.swapped = failureStatus op f := by
  have hmissing : ∀ resource : Resource,
      missingStatus op' resource.swap = missingStatus op resource := by
    intro resource
    have hswap : resource.swap = op.resource.swap ↔ resource = op.resource := by
      cases resource <;> cases op.resource <;> decide
    unfold missingStatus
    rw [hop.isGet, hop.isDelete, hop.resource]
    simp only [hswap]
  unfold failureStatus
  rw [Failure.root_swapped]
  cases f.root with
  | resourceDoesNotExist resource id => exact hmissing resource
  | _ => rfl

/-- A service for bindings says what a service for instances says: it fails where the other does, and
the flags and the state of its response are the same, whatever else is in it. -/
abbrev Operation.SaysAlike (op op' : Operation) : Outcome op.ResponseType →
    Outcome op'.ResponseType → Prop :=
  Outcome.Related Failure.swapped fun r r' => op'.steering r' = op.steering r

/-! ## Answers and reports -/

/-- The kinds of bodies. -/
inductive BodyKind where
  | empty
  | json
  | error
deriving DecidableEq, Repr

/-- The kind of a body. -/
def Body.kind {ρ : Type} : Body ρ → BodyKind
  | .empty => .empty
  | .json _ => .json
  | .error _ => .error

/-- Two answers have the same status and bodies of the same kind. -/
structure Answer.Mirrors (a a' : Answer AnyResponse) : Prop where
  status : a'.status = a.status
  kind : a'.body.kind = a.body.kind

/-- Two reports agree but for the resource that they are about: in the status and in the kind of the
body, in the hooks that ran and the phases they ran in, in the number of calls of the service, and in
the statuses and the failures of hooks that are counted. -/
structure Report.Mirrors (r r' : Report) : Prop where
  answer : r.answer.Mirrors r'.answer
  notes : r'.notes = r.notes.map (FlowNote.renamed Failure.swapped)
  calls : r'.requests.length = r.requests.length
  counted : r'.counted.map (·.2) = r.counted.map (·.2)
  flowFailures : r'.flowFailures = r.flowFailures

section

variable {op op' : Operation} (hop : op.Mirrors op')

include hop

theorem Answer.mirrors_ofFailure (f : Failure) :
    (Answer.ofFailure op f).Mirrors (.ofFailure op' f.swapped) where
  status := failureStatus_swapped hop f
  kind := rfl

/-- **Outcomes that say the same are answered alike.** -/
theorem Answer.mirrors_ofOutcome {o : Outcome op.ResponseType} {o' : Outcome op'.ResponseType}
    (ho : op.SaysAlike op' o o') (view : op.ResponseType → AnyResponse)
    (view' : op'.ResponseType → AnyResponse) :
    ((Answer.ofOutcome op o).map view).Mirrors ((Answer.ofOutcome op' o').map view') := by
  cases ho with
  | failed f => exact Answer.mirrors_ofFailure hop f
  | silent => exact ⟨hop.emptyStatus, rfl⟩
  | @answered r r' h =>
    have hstatus : Response.status r' = Response.status r := by
      rw [Operation.status_eq, Operation.status_eq, h, hop.steeredStatus]
    exact ⟨hstatus, rfl⟩

theorem Report.mirrors_ofFailure (f : Failure) :
    (Report.ofFailure op f).Mirrors (.ofFailure op' f.swapped) where
  answer := Answer.mirrors_ofFailure hop f
  notes := rfl
  calls := rfl
  counted := congrArg (fun status => [status]) (failureStatus_swapped hop f)
  flowFailures := rfl

/-- **Runs that take the same course have reports that agree.** -/
theorem Report.mirrors_ofRun {run : Run α op.ResponseType} {run' : Run β op'.ResponseType}
    (hrun : Run.Related Failure.swapped (fun r r' => op'.steering r' = op.steering r) run run')
    (wrap : α → AnyRequest) (wrap' : β → AnyRequest) (view : op.ResponseType → AnyResponse)
    (view' : op'.ResponseType → AnyResponse) :
    (Report.ofRun op wrap view run).Mirrors (.ofRun op' wrap' view' run') where
  answer := Answer.mirrors_ofOutcome hop hrun.outcome view view'
  notes := by rw [notes_ofRun, notes_ofRun, hrun.notes]
  calls := by
    rw [Broker.requests_ofRun, Broker.requests_ofRun, List.length_map, List.length_map, hrun.calls]
  counted :=
    congrArg (fun status => [status]) (Answer.mirrors_ofOutcome hop hrun.outcome view view').status
  flowFailures := hrun.flowFailures

end

/-! ## Calls -/

/-- A call about a binding does what a call about an instance does. Of what it says, a creation needs
the catalog entries, which are the same. -/
inductive Call.Mirrors : Call → Call → Prop
  | create {i : Inbound Instance.CreateBody} {j : BindingInbound Binding.CreateBody}
      (hservice : j.body.serviceId = i.body.serviceId) (hplan : j.body.planId = i.body.planId) :
      Mirrors (.createInstance i) (.createBinding j)
  | delete (i : Inbound EntryQuery) (j : BindingInbound EntryQuery) :
      Mirrors (.deleteInstance i) (.deleteBinding j)
  | get (i : Inbound Unit) (j : BindingInbound Unit) : Mirrors (.getInstance i) (.getBinding j)
  | poll (i : Inbound PollQuery) (j : BindingInbound PollQuery) :
      Mirrors (.pollInstance i) (.pollBinding j)

/-- A service for bindings says what a service for instances says, operation by operation. -/
structure InstanceScript.Mirrors (s : InstanceScript) (t : BindingScript) : Prop where
  create : Operation.SaysAlike .createInstance .createBinding s.create t.create
  delete : Operation.SaysAlike .deleteInstance .deleteBinding s.delete t.delete
  get : Operation.SaysAlike .getInstance .getBinding s.get t.get
  poll : Operation.SaysAlike .pollInstance .pollBinding s.poll t.poll

/-- A broker of services with fixed outcomes, whose hooks for bindings mirror those for instances. -/
def Broker.mirrored (catalog : Catalog) (flows : FlowRegistries) (s : InstanceScript)
    (t : BindingScript) : Broker where
  catalog := catalog
  instances := .scripted s
  bindings := some (.scripted t)
  flows := flows.mirrored

/-- **Bindings mirror instances.** A call about a binding is carried out like the call about an
instance that it mirrors: both come to a report, with the same status, a body of the same kind, the
same hooks in the same phases and as many calls of the service. -/
theorem bindings_mirror_instances (catalog : Catalog) (flows : FlowRegistries) {s : InstanceScript}
    {t : BindingScript} (hscript : s.Mirrors t) {c c' : Call} (hc : c.Mirrors c') :
    ∃ report report', (Broker.mirrored catalog flows s t).perform? c = some report ∧
      (Broker.mirrored catalog flows s t).perform? c' = some report' ∧ report.Mirrors report' := by
  have hφ := Failure.renaming_swapped
  cases hc with
  | @create i j hservice hplan =>
    refine ⟨_, _, rfl, rfl, ?_⟩
    unfold Broker.createInstance Broker.createBinding
    rw [hservice, hplan]
    cases hentries : (Broker.mirrored catalog flows s t).catalog.require i.body.serviceId
      i.body.planId with
    | error f =>
      have hreport := Report.mirrors_ofFailure Operation.mirrors_create f
      rwa [Catalog.swapped_of_require hentries] at hreport
    | ok entries =>
      exact Report.mirrors_ofRun Operation.mirrors_create
        (Pipeline.run_related hφ flows.createInstance (.of_asked hscript.create _ _)) _ _ _ _
  | delete i j =>
    exact ⟨_, _, rfl, rfl, Report.mirrors_ofRun Operation.mirrors_delete
      (Pipeline.run_related hφ flows.deleteInstance (.of_asked hscript.delete _ _)) _ _ _ _⟩
  | get i j =>
    exact ⟨_, _, rfl, rfl, Report.mirrors_ofRun Operation.mirrors_get
      (Pipeline.plain_related (.of_asked hscript.get _ _)) _ _ _ _⟩
  | poll i j =>
    exact ⟨_, _, rfl, rfl, Report.mirrors_ofRun Operation.mirrors_poll
      (Pipeline.run_related hφ flows.pollInstance (.of_asked hscript.poll _ _)) _ _ _ _⟩

namespace Sample

/-- Something is missing, and a hook has said so before: about instances or about bindings. -/
def missing (resource : Resource) : Failure :=
  .hook .completion (.resourceDoesNotExist resource "gone")

/-- Hooks around deletions of instances, the last of which fails. -/
def deletionHooks : FlowRegistries where
  deleteInstance := {
    initialization := [{ name := "lock" }]
    error := [{ name := "unlock", fault := some (missing .serviceInstance) }] }

/-- A service that misses what it is to delete. -/
def missingInstances : InstanceScript := { delete := .error (missing .serviceInstance) }

/-- The same for bindings. -/
def missingBindings : BindingScript := { delete := .error (missing .serviceBinding) }

/-- A binding to delete is gone like an instance. -/
theorem deletion_mirrors :
    ∃ report report',
      (Broker.mirrored catalog deletionHooks missingInstances missingBindings).perform?
          (.deleteInstance { instanceId, body := entry }) = some report ∧
        (Broker.mirrored catalog deletionHooks missingInstances missingBindings).perform?
          (.deleteBinding { instanceId, bindingId, body := entry }) = some report' ∧
        report.Mirrors report' ∧ report.answer.status = 410 ∧
        report'.notes =
          [.initialization "lock", .error "unlock" (missing .serviceBinding)] := by
  have hscript : missingInstances.Mirrors missingBindings :=
    ⟨.answered rfl, .failed (missing .serviceInstance), .answered rfl, .answered rfl⟩
  obtain ⟨report, report', hreport, hreport', hmirrors⟩ :=
    bindings_mirror_instances catalog deletionHooks hscript
      (.delete { instanceId, body := entry } { instanceId, bindingId, body := entry })
  have hgone : report.answer.status = 410 := by
    cases hreport
    rfl
  have hnotes : report'.notes =
      [.initialization "lock", .error "unlock" (missing .serviceBinding)] := by
    cases hreport'
    rfl
  exact ⟨report, report', hreport, hreport', hmirrors, hgone, hnotes⟩

end Sample

end Brokerage
