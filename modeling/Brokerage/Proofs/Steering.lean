import Brokerage.Proofs.Answer
import Brokerage.Proofs.Related
import Brokerage.Proofs.RoundTrip
import Brokerage.Proofs.Transport
import Brokerage.Sample

/-!
# Flags steer, fields travel

A response has two sorts of fields. Flags, and the state of a poll, steer the status of the answer;
all fields but the flags travel in its body. Neither sort gets in the way of the other.

* `Operation.SteerAlike`, `Operation.CarryAlike`: responses that agree in what decides the status, and
  in what decides the body.
* `Broker.Agrees`: two brokers whose services answer every request alike, up to a relation between
  responses.
* `Broker.Agrees.perform?`: **the answers of two such brokers are answers to related outcomes.**
* `Http.app_related`: replies are alike where the performed calls are; `Http.app_of_agrees` says so for
  such brokers.
* `Json.Unflagged`: an object without a member that is named like a flag.
* `flags_and_fields_do_not_interfere`: **the status depends on what steers it, the body on what
  travels**, and no flag is a member of a body.
-/

namespace Brokerage

variable {α β ρ σ : Type}

/-! ## Two sorts of fields -/

namespace Operation

/-- The response with its flags down, everything else as it is. -/
def withoutFlags : (op : Operation) → op.ResponseType → op.ResponseType
  | createInstance, r => { r with isAsync := false, existed := false }
  | updateInstance, r => { r with isAsync := false }
  | deleteInstance, r => { r with isAsync := false }
  | getInstance, r => r
  | pollInstance, r => { r with isDelete := false }
  | createBinding, r => { r with isAsync := false, existed := false }
  | deleteBinding, r => { r with isAsync := false }
  | getBinding, r => r
  | pollBinding, r => { r with isDelete := false }

/-- Two responses agree in what steers the status. -/
def SteerAlike (op : Operation) (a a' : op.ResponseType) : Prop := op.steering a = op.steering a'

/-- Two responses agree in all fields but the flags. -/
def CarryAlike (op : Operation) (a a' : op.ResponseType) : Prop :=
  op.withoutFlags a = op.withoutFlags a'

/-- The message of a response does not show its flags. -/
theorem encode_withoutFlags (op : Operation) (r : op.ResponseType) :
    Wire.encode (op.withoutFlags r) = Wire.encode r := by
  cases op <;> rfl

variable {op : Operation} {o o' : Outcome op.ResponseType}

/-- **Outcomes that steer alike have the same status.** -/
theorem status_of_related (h : Outcome.Related id op.SteerAlike o o') :
    (Answer.ofOutcome op o).status = (Answer.ofOutcome op o').status := by
  cases h with
  | failed f => rfl
  | silent => rfl
  | answered h =>
    rw [Answer.ofOutcome_some, Answer.ofOutcome_some]
    show Response.status _ = Response.status _
    rw [status_eq, status_eq, h]

/-- **Outcomes that carry the same fields have the same body**, as it is written. -/
theorem body_of_related (h : Outcome.Related id op.CarryAlike o o') :
    (Answer.ofOutcome op o).body.written = (Answer.ofOutcome op o').body.written := by
  cases h with
  | failed f => rfl
  | silent => rfl
  | answered h =>
    rw [Answer.ofOutcome_some, Answer.ofOutcome_some]
    show Body.json (Wire.encode _) = Body.json (Wire.encode _)
    rw [← encode_withoutFlags, h, encode_withoutFlags]

end Operation

/-! ## Two brokers -/

/-- Two services answer every request alike: they fail with the same failure, or have nothing to say,
or their responses are related. -/
abbrev AnswerAlike (rel : ρ → ρ → Prop) (s s' : α → Outcome ρ) : Prop :=
  ∀ q, Outcome.Related id rel (s q) (s' q)

/-- Relations between the responses of each operation. -/
abbrev Relations : Type := (op : Operation) → op.ResponseType → op.ResponseType → Prop

/-- Two services for bindings offer the same and answer alike. -/
structure BindingService.Agrees (rel : Relations) (s s' : BindingService) : Prop where
  create : AnswerAlike (rel .createBinding) s.create s'.create
  delete : AnswerAlike (rel .deleteBinding) s.delete s'.delete
  get : Option.Rel (AnswerAlike (rel .getBinding)) s.get s'.get
  poll : Option.Rel (AnswerAlike (rel .pollBinding)) s.poll s'.poll

/-- Two brokers have the same catalog and the same hooks, offer the same, and their services answer
alike. -/
structure Broker.Agrees (rel : Relations) (b b' : Broker) : Prop where
  catalog : b'.catalog = b.catalog
  flows : b'.flows = b.flows
  create : AnswerAlike (rel .createInstance) b.instances.create b'.instances.create
  update : AnswerAlike (rel .updateInstance) b.instances.update b'.instances.update
  delete : AnswerAlike (rel .deleteInstance) b.instances.delete b'.instances.delete
  get : Option.Rel (AnswerAlike (rel .getInstance)) b.instances.get b'.instances.get
  poll : Option.Rel (AnswerAlike (rel .pollInstance)) b.instances.poll b'.instances.poll
  bindings : Option.Rel (BindingService.Agrees rel) b.bindings b'.bindings

theorem Outcome.Related.refl {R : ρ → ρ → Prop} (hR : ∀ r, R r r) (o : Outcome ρ) :
    Outcome.Related id R o o := by
  cases o with
  | error f => exact .failed f
  | ok response =>
    cases response with
    | none => exact .silent
    | some r => exact .answered (hR r)

theorem optionRel_refl {R : α → α → Prop} (hR : ∀ a, R a a) (x : Option α) : Option.Rel R x x := by
  cases x with
  | none => exact .none
  | some a => exact .some (hR a)

theorem optionRel_map {α' ρ' : Type} {R : α → α' → Prop} {S : ρ → ρ' → Prop} {f : α → ρ}
    {f' : α' → ρ'} (hf : ∀ a a', R a a' → S (f a) (f' a')) {x : Option α} {x' : Option α'}
    (h : Option.Rel R x x') : Option.Rel S (x.map f) (x'.map f') := by
  cases h with
  | none => exact .none
  | some h => exact .some (hf _ _ h)

theorem optionRel_isSome {R : α → β → Prop} {x : Option α} {x' : Option β} (h : Option.Rel R x x') :
    x'.isSome = x.isSome := by
  cases h <;> rfl

theorem optionRel_map_eq {R : α → β → Prop} {f : α → ρ} {f' : β → ρ}
    (hf : ∀ a a', R a a' → f a = f' a') {x : Option α} {x' : Option β} (h : Option.Rel R x x') :
    x.map f = x'.map f' := by
  cases h with
  | none => rfl
  | some h => exact congrArg some (hf _ _ h)

/-- Two reports are of the same operation, and answer outcomes of it that are related. -/
def Report.AnswersRelated (rel : Relations) (r r' : Report) : Prop :=
  ∃ (op : Operation) (o o' : Outcome op.ResponseType), Outcome.Related id (rel op) o o' ∧
    r.answer = (Answer.ofOutcome op o).map op.view ∧ r'.answer = (Answer.ofOutcome op o').map op.view

section

variable {rel : Relations} {op : Operation}

theorem Consultation.Related.of_consult {R : ρ → ρ → Prop} {s s' : α → Outcome ρ}
    (h : AnswerAlike R s s') (q : α) :
    Consultation.Related id R (consult s q) (consult s' q) := .of_asked (h q) q q

theorem Consultation.Related.of_consultIfOffered {R : ρ → ρ → Prop} {s s' : Option (α → Outcome ρ)}
    (h : Option.Rel (AnswerAlike R) s s') (name : String) (q : α) :
    Consultation.Related id R (consultIfOffered name s q) (consultIfOffered name s' q) := by
  cases h with
  | none => exact ⟨.failed _, rfl⟩
  | some h => exact .of_consult h q

variable {business business' : Consultation α op.ResponseType}
  (h : Consultation.Related id (rel op) business business') (wrap : α → AnyRequest)

include h

/-- Related consultations, with the same hooks around them, have related answers. -/
theorem Report.answersRelated_run (flows : FlowRegistry) :
    AnswersRelated rel (.ofRun op wrap op.view (Pipeline.run flows business))
      (.ofRun op wrap op.view (Pipeline.run flows business')) := by
  have hrun := Pipeline.run_related Failure.renaming_id flows h
  rw [FlowRegistry.renamed_id] at hrun
  exact ⟨op, _, _, hrun.outcome, rfl, rfl⟩

theorem Report.answersRelated_plain :
    AnswersRelated rel (.ofRun op wrap op.view (Pipeline.plain business))
      (.ofRun op wrap op.view (Pipeline.plain business')) :=
  ⟨op, _, _, (Pipeline.plain_related h).outcome, rfl, rfl⟩

end

namespace Broker

variable {rel : Relations} {b b' : Broker}

/-- A broker agrees with itself. -/
theorem Agrees.refl (hrel : ∀ op r, rel op r r) (b : Broker) : b.Agrees rel b where
  catalog := rfl
  flows := rfl
  create _ := .refl (hrel .createInstance) _
  update _ := .refl (hrel .updateInstance) _
  delete _ := .refl (hrel .deleteInstance) _
  get := optionRel_refl (fun _ _ => .refl (hrel .getInstance) _) _
  poll := optionRel_refl (fun _ _ => .refl (hrel .pollInstance) _) _
  bindings := optionRel_refl (fun _ => {
    create := fun _ => .refl (hrel .createBinding) _
    delete := fun _ => .refl (hrel .deleteBinding) _
    get := optionRel_refl (fun _ _ => .refl (hrel .getBinding) _) _
    poll := optionRel_refl (fun _ _ => .refl (hrel .pollBinding) _) _ }) _

/-- Brokers that agree serve the same operations. -/
theorem Agrees.serves (h : b.Agrees rel b') {op : Operation} : b'.Serves op ↔ b.Serves op := by
  unfold Serves
  rw [optionRel_isSome h.bindings]

/-- A request is answered by outcomes that are related. -/
theorem Agrees.carryOut? (h : b.Agrees rel b') (q : AnyRequest) :
    Option.Rel (Report.AnswersRelated rel) (b.carryOut? q) (b'.carryOut? q) := by
  unfold Broker.carryOut?
  rw [h.flows]
  cases q with
  | createInstance q => exact .some (Report.answersRelated_run (.of_consult h.create q) _ _)
  | updateInstance q => exact .some (Report.answersRelated_run (.of_consult h.update q) _ _)
  | deleteInstance q => exact .some (Report.answersRelated_run (.of_consult h.delete q) _ _)
  | getInstance q =>
    exact .some (Report.answersRelated_plain (.of_consultIfOffered h.get _ q) _)
  | pollInstance q =>
    exact .some (Report.answersRelated_run (.of_consultIfOffered h.poll _ q) _ _)
  | createBinding q =>
    refine optionRel_map (fun s s' hs => ?_) h.bindings
    exact Report.answersRelated_run (.of_consult hs.create q) _ _
  | deleteBinding q =>
    refine optionRel_map (fun s s' hs => ?_) h.bindings
    exact Report.answersRelated_run (.of_consult hs.delete q) _ _
  | getBinding q =>
    refine optionRel_map (fun s s' hs => ?_) h.bindings
    exact Report.answersRelated_plain (.of_consultIfOffered hs.get _ q) _
  | pollBinding q =>
    refine optionRel_map (fun s s' hs => ?_) h.bindings
    exact Report.answersRelated_run (.of_consultIfOffered hs.poll _ q) _ _

/-- **Brokers that agree answer a call by outcomes that are related.** -/
theorem Agrees.perform? (h : b.Agrees rel b') (c : Call) :
    Option.Rel (Report.AnswersRelated rel) (b.perform? c) (b'.perform? c) := by
  cases hq : c.resolve b.catalog with
  | ok q =>
    rw [perform?_of_resolve_ok hq, perform?_of_resolve_ok (h.catalog ▸ hq)]
    exact h.carryOut? q
  | error f =>
    by_cases hb : b.Serves c.operation
    · rw [perform?_of_resolve_error hb hq, perform?_of_resolve_error (h.serves.2 hb) (h.catalog ▸ hq)]
      exact .some ⟨c.operation, .error f, .error f, .failed f, rfl, rfl⟩
    · rw [perform?_of_not_serves hb, perform?_of_not_serves (mt h.serves.1 hb)]
      exact .none

/-- What is the same in answers to related outcomes is the same in the answers of brokers that agree. -/
theorem Agrees.answer_eq (h : b.Agrees rel b') {γ : Type} (f : Answer AnyResponse → γ)
    (hf : ∀ {op : Operation} {o o' : Outcome op.ResponseType}, Outcome.Related id (rel op) o o' →
      f ((Answer.ofOutcome op o).map op.view) = f ((Answer.ofOutcome op o').map op.view)) (c : Call) :
    (b.perform? c).map (fun report => f report.answer) =
      (b'.perform? c).map fun report => f report.answer := by
  refine optionRel_map_eq ?_ (h.perform? c)
  rintro report report' ⟨op, o, o', ho, hr, hr'⟩
  rw [hr, hr']
  exact hf ho

end Broker

/-! ## Replies -/

namespace Http

variable {apiVersion : String} {b b' : Broker} {r : Request}

/-- The responses that a server makes without performing a call. -/
inductive Own (b : Broker) : Response → Prop
  | notFound : Own b notFound
  | notAllowed : Own b notAllowed
  | problem (p : Problem) : Own b p.response
  | text (status : Nat) (s : String) : Own b (.text status s)
  | catalog : Own b (.json 200 (Wire.encode b.catalog))

/-- A response of any operation is sent like the response itself. -/
theorem answerResponse_view {op : Operation} (a : Answer op.ResponseType) :
    answerResponse (a.map op.view) = answerResponse a := by
  unfold answerResponse
  rw [a.toJson_body_view, Answer.map_status]

theorem own_of_rejection (rejection : Rejection) : Own b rejection.response := by
  cases rejection with
  | path p => exact .text _ _
  | _ => exact .problem _

theorem own_of_gate {response : Response} (h : versionGate apiVersion r = some response) :
    Own b response := by
  rw [versionGate_eq] at h
  obtain ⟨d, hd, rfl⟩ := Option.map_eq_some_iff.1 h
  unfold versionDefects at hd
  cases hexpected : expectedVersion? apiVersion with
  | none =>
    rw [hexpected] at hd
    cases hd
  | some expected =>
    rw [hexpected] at hd
    simp only at hd
    split at hd
    · cases hd
    · cases hd
      exact .problem _

/-- **Replies are alike where the performed calls are**, for any likeness that a missing content and a
further header do not spoil. -/
theorem app_related {R : Response → Response → Prop} (hown : ∀ x, Own b x → R x x)
    (hhead : ∀ x y, R x y → R x.withoutContent y.withoutContent)
    (hheader : ∀ x y name value, R x y → R (x.withHeader name value) (y.withHeader name value))
    (hbindings : b'.bindings.isSome = b.bindings.isSome) (hcatalog : b'.catalog = b.catalog)
    (hperform : ∀ c, R (perform b c).response (perform b' c).response) (r : Request) :
    R (app apiVersion b r).response (app apiVersion b' r).response := by
  have hguard : ∀ {inner inner' : Reply}, R inner.response inner'.response →
      R ((versionGate apiVersion).guard r inner).response
        ((versionGate apiVersion).guard r inner').response := by
    intro inner inner' h
    unfold Gate.guard
    cases hgate : versionGate apiVersion r with
    | none => exact h
    | some response => exact hown response (own_of_gate hgate)
  have hendpoint : ∀ (e : Endpoint) (raw : RawParams),
      R (e.handle b raw r).response (e.handle b' raw r).response := by
    intro e raw
    unfold Endpoint.handle
    cases e with
    | catalog =>
      rw [hcatalog]
      exact hown _ .catalog
    | operation op =>
      simp only
      cases call op raw r with
      | error rejection => exact hown _ (own_of_rejection rejection)
      | ok c => exact hperform c
  have hshown : ∀ {reply reply' : Reply}, R reply.response reply'.response →
      R (reply.headOnly r).response (reply'.headOnly r).response := by
    intro reply reply' h
    unfold Reply.headOnly
    split
    · exact hhead _ _ h
    · exact h
  have hhandle : R ((brokerTable b.bindings.isSome).handle (versionGate apiVersion) b r).response
      ((brokerTable b'.bindings.isSome).handle (versionGate apiVersion) b' r).response := by
    rw [hbindings]
    unfold Table.handle
    cases (brokerTable b.bindings.isSome).find? r.path with
    | none => exact hguard (hown _ .notFound)
    | some found =>
      obtain ⟨route, raw⟩ := found
      simp only
      cases (Method.ofName? r.method).bind route.endpoint? with
      | none => exact hheader _ _ _ _ (hguard (hown _ .notAllowed))
      | some e => exact hshown (hguard (hendpoint e raw))
  unfold app echoIdentity
  cases r.header? requestIdentityHeader with
  | none => exact hhandle
  | some value => exact hheader _ _ _ _ hhandle

/-- **What is the same in responses with related outcomes** is the same in the replies of brokers that
agree, if it does not depend on a missing content or a further header. -/
theorem app_of_agrees {rel : Relations} (h : b.Agrees rel b') {γ : Type} (f : Response → γ)
    (hhead : ∀ x y, f x = f y → f x.withoutContent = f y.withoutContent)
    (hheader : ∀ x y name value, f x = f y → f (x.withHeader name value) = f (y.withHeader name value))
    (hanswer : ∀ {op : Operation} {o o' : Outcome op.ResponseType}, Outcome.Related id (rel op) o o' →
      f (answerResponse (.ofOutcome op o)) = f (answerResponse (.ofOutcome op o'))) (r : Request) :
    f (app apiVersion b r).response = f (app apiVersion b' r).response := by
  have hown : ∀ x, Own b x → f x = f x := fun _ _ => rfl
  have hperform : ∀ c, f (perform b c).response = f (perform b' c).response := by
    intro c
    have hof : ∀ b : Broker, f (perform b c).response =
        ((b.perform? c).map fun report => f (answerResponse report.answer)).getD
          (f Rejection.noBindings.response) := by
      intro b
      unfold perform
      cases b.perform? c <;> rfl
    have hviewed : ∀ {op : Operation} {o o' : Outcome op.ResponseType},
        Outcome.Related id (rel op) o o' →
          f (answerResponse ((Answer.ofOutcome op o).map op.view)) =
            f (answerResponse ((Answer.ofOutcome op o').map op.view)) := by
      intro op o o' ho
      rw [answerResponse_view, answerResponse_view]
      exact hanswer ho
    rw [hof, hof, h.answer_eq (fun a => f (answerResponse a)) hviewed c]
  exact app_related hown hhead hheader (optionRel_isSome h.bindings) h.catalog hperform r

end Http

/-! ## Names of members -/

/-- The names that the flags have inside a broker. -/
def flagNames : List String :=
  ["is_async", "instance_existed", "binding_existed", "delete_operation"]

/-- An object without a member that is named like a flag. -/
def Json.Unflagged (j : Json) : Prop := ∃ ms, j = .object ms ∧ ∀ m ∈ ms, m.1 ∉ flagNames

/-- A record without a member that is named like a flag. -/
def Wire.Shape.unflagged : Wire.Shape → Bool
  | .record _ fields => flagNames.all fun name => !fields.knows name
  | _ => false

/-- What such a record is written as has no such member. -/
theorem Wire.Shape.unflagged_toJson {s : Wire.Shape} (h : s.unflagged = true) (v : s.Value) :
    (s.toJson v).Unflagged := by
  cases s with
  | record name fields =>
    refine ⟨fields.toMembers v, rfl, fun m hm hflag => ?_⟩
    have hunknown := List.all_eq_true.1 h m.1 hflag
    rw [fields.knows_of_writes (fields.writes_toMembers v) m hm] at hunknown
    cases hunknown
  | _ => cases h

theorem ErrorBody.unflagged_encode (e : ErrorBody) : (Wire.encode e).Unflagged :=
  (Wire.Message.shape ErrorBody).unflagged_toJson (by decide) _

theorem Catalog.unflagged_encode (c : Catalog) : (Wire.encode c).Unflagged :=
  (Wire.Message.shape Catalog).unflagged_toJson (by decide) _

theorem Operation.unflagged_encode (op : Operation) (r : op.ResponseType) :
    (Wire.encode r).Unflagged := by
  have hshape : (Wire.Message.shape op.ResponseType).unflagged = true := by
    cases op <;> decide
  exact Wire.Shape.unflagged_toJson hshape _

/-- The body of an answer has no member that is named like a flag. -/
theorem Operation.unflagged_body (op : Operation) (o : Outcome op.ResponseType) :
    (Answer.ofOutcome op o).body.toJson.Unflagged := by
  cases o with
  | error f => exact ErrorBody.unflagged_encode _
  | ok response =>
    cases response with
    | none => exact ⟨[], rfl, nofun⟩
    | some r => exact op.unflagged_encode r

/-- The body of no answer has one. -/
theorem Report.unflagged_of_perform? {b : Broker} {c : Call} {report : Report}
    (h : b.perform? c = some report) : report.answer.body.toJson.Unflagged := by
  have hself : Option.Rel (AnswersRelated fun _ _ _ => True) (b.perform? c) (b.perform? c) :=
    (Broker.Agrees.refl (fun _ _ => trivial) b).perform? c
  rw [h] at hself
  obtain ⟨op, o, -, -, hanswer, -⟩ := Option.rel_some_some.1 hself
  rw [hanswer, Answer.toJson_body_view]
  exact op.unflagged_body o

/-- No response has one in a JSON value. -/
theorem Http.unflagged_of_own {b : Broker} {x : Http.Response} (h : Http.Own b x) {j : Json}
    (hj : x.content = .json j) : j.Unflagged := by
  cases h with
  | notFound => cases hj
  | notAllowed => cases hj
  | problem p =>
    cases hj
    exact ErrorBody.unflagged_encode _
  | text status s => cases hj
  | catalog =>
    cases hj
    exact Catalog.unflagged_encode _

theorem Http.unflagged_of_app (apiVersion : String) (b : Broker) (r : Http.Request) {j : Json}
    (hj : (Http.app apiVersion b r).response.content = .json j) : j.Unflagged := by
  let P : Http.Response → Prop := fun x => ∀ j, x.content = .json j → j.Unflagged
  have hown : ∀ x, Http.Own b x → P x := fun x hx j => Http.unflagged_of_own hx
  have hperform : ∀ c, P (Http.perform b c).response := by
    intro c
    unfold Http.perform
    cases hreport : b.perform? c with
    | none => exact hown _ (Http.own_of_rejection .noBindings)
    | some report =>
      rintro j ⟨⟩
      exact Report.unflagged_of_perform? hreport
  exact Http.app_related (R := fun x _ => P x) hown (fun _ _ _ _ hj => nomatch hj)
    (fun _ _ _ _ h => h) rfl rfl hperform r j hj

/-! ## The law -/

/-- **Flags and fields do not interfere.** Two responses of an operation that agree in flags and state
have the same status, and two that agree in all fields but the flags have the same body, as it is
written: the flags stay in the answer and are not in its JSON value. The same holds
from end to end for two brokers whose services answer with such responses, at the broker and at its
server; and no JSON value that leaves them has a member named like a flag. -/
theorem flags_and_fields_do_not_interfere (apiVersion : String) :
    (∀ (op : Operation) (a a' : op.ResponseType), op.SteerAlike a a' →
      (Answer.ofOutcome op (.ok (some a))).status = (Answer.ofOutcome op (.ok (some a'))).status) ∧
    (∀ (op : Operation) (a a' : op.ResponseType), op.CarryAlike a a' →
      (Answer.ofOutcome op (.ok (some a))).body.written =
        (Answer.ofOutcome op (.ok (some a'))).body.written) ∧
    (∀ b b' : Broker, b.Agrees Operation.SteerAlike b' →
      (∀ c, (b.perform? c).map (·.answer.status) = (b'.perform? c).map (·.answer.status)) ∧
      ∀ r, (Http.app apiVersion b r).response.status =
        (Http.app apiVersion b' r).response.status) ∧
    (∀ b b' : Broker, b.Agrees Operation.CarryAlike b' →
      (∀ c, (b.perform? c).map (·.answer.body.written) =
        (b'.perform? c).map (·.answer.body.written)) ∧
      ∀ r, (Http.app apiVersion b r).response.content =
        (Http.app apiVersion b' r).response.content) ∧
    (∀ (b : Broker) c report, b.perform? c = some report → report.answer.body.toJson.Unflagged) ∧
    ∀ b r j, (Http.app apiVersion b r).response.content = .json j → j.Unflagged := by
  refine ⟨fun op a a' h => op.status_of_related (.answered h), fun op a a' h =>
    op.body_of_related (.answered h), ?_, ?_, fun b c report => Report.unflagged_of_perform?,
    fun b r j => Http.unflagged_of_app apiVersion b r⟩
  · intro b b' h
    exact ⟨h.answer_eq Answer.status Operation.status_of_related,
      Http.app_of_agrees h Http.Response.status (fun _ _ h => h) (fun _ _ _ _ h => h)
        Operation.status_of_related⟩
  · intro b b' h
    have hbody : ∀ {op : Operation} {o o' : Outcome op.ResponseType},
        Outcome.Related id op.CarryAlike o o' →
          ((Answer.ofOutcome op o).map op.view).body.written =
            ((Answer.ofOutcome op o').map op.view).body.written := by
      intro op o o' ho
      rw [Answer.written_view, Answer.written_view]
      exact Operation.body_of_related ho
    refine ⟨h.answer_eq (fun a => a.body.written) hbody,
      Http.app_of_agrees h Http.Response.content (fun _ _ _ => rfl) (fun _ _ _ _ h => h) ?_⟩
    intro op o o' ho
    show Http.Content.json (Body.toJson _) = Http.Content.json (Body.toJson _)
    unfold Body.toJson
    rw [Operation.body_of_related ho]

namespace Sample

/-- A broker whose deletions are answered with a response. -/
def answering (response : Instance.DeleteResponse) : Broker :=
  { broker with instances := .scripted { delete := .ok (some response) } }

theorem agrees_answering (rel : Relations) (hrel : ∀ op r, rel op r r)
    {response response' : Instance.DeleteResponse} (h : rel .deleteInstance response response') :
    (answering response).Agrees rel (answering response') where
  catalog := rfl
  flows := rfl
  create _ := .refl (hrel .createInstance) _
  update _ := .refl (hrel .updateInstance) _
  delete _ := .answered h
  get := .some fun _ => .refl (hrel .getInstance) _
  poll := .some fun _ => .refl (hrel .pollInstance) _
  bindings := .none

/-- A deletion in the background. -/
def inBackground : Instance.DeleteResponse := { isAsync := true }

/-- The same, by a name to ask after it. -/
def namedInBackground : Instance.DeleteResponse := { isAsync := true, operation := some "task" }

/-- The name alone. -/
def named : Instance.DeleteResponse := { operation := some "task" }

/-- A deletion in the background has one status, named or not, and by its name one body, in the
background or not. -/
theorem deletions_do_not_interfere :
    let call : Call := .deleteInstance { instanceId, body := entry }
    ((answering inBackground).perform? call).map (·.answer.status) = some 202 ∧
      ((answering inBackground).perform? call).map (·.answer.status) =
        ((answering namedInBackground).perform? call).map (·.answer.status) ∧
      ((answering namedInBackground).perform? call).map (·.answer.body.written) =
        ((answering named).perform? call).map (·.answer.body.written) := by
  intro call
  obtain ⟨-, -, hstatus, hbody, -, -⟩ := flags_and_fields_do_not_interfere "*"
  have hsteer : (answering inBackground).Agrees Operation.SteerAlike (answering namedInBackground) :=
    agrees_answering Operation.SteerAlike (fun _ _ => rfl) rfl
  have hcarry : (answering namedInBackground).Agrees Operation.CarryAlike (answering named) :=
    agrees_answering Operation.CarryAlike (fun _ _ => rfl) rfl
  exact ⟨rfl, (hstatus _ _ hsteer).1 call, (hbody _ _ hcarry).1 call⟩

end Sample

end Brokerage
