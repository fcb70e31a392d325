import Brokerage.Http.Server
import Brokerage.Proofs.Resolve
import Brokerage.Proofs.Routing
import Brokerage.Sample

/-!
# The transport

A request on a route of a broker is turned away for the first thing wrong with it, or makes one call.

* `Http.Defect`, `Http.defects`: what is wrong with a request, each part of it looked at on its own,
  in the order that decides the answer.
* `Http.Judged`: a part is read as its defects tell. `Judged.bind` puts parts together, `judged_call`
  is about all of them.
* `Fields.ofForm_filter`, `SameButFlag.app`: entries of a form with unknown names do not matter, so a
  method that only reads ignores the flag for operations in the background.
* `app_turns_away_or_performs`: **the first defect decides the answer and nothing else happens; without
  any, one call of the route's operation is performed and answered.**
-/

namespace Brokerage

/-! ## Entries with unknown names -/

namespace Wire

theorem Fields.fillForm_of_unknown {key text : String} :
    ∀ {fs : Fields} {slots : fs.Slots}, fs.knows key = false → fs.fillForm slots key text = .ok slots
  | .nil, _, _ => rfl
  | .cons name _ _ rest, (slot, slots), h => by
    obtain ⟨hname, hrest⟩ := Bool.or_eq_false_iff.1 h
    have hne : key ≠ name := fun he => by simp [he] at hname
    unfold fillForm
    rw [if_neg hne, fillForm_of_unknown hrest]
    rfl

/-- **Entries with unknown names do not matter** to the reading of a form. -/
theorem Fields.ofForm_filter {fs : Fields} {p : String × String → Bool}
    (h : ∀ entry, p entry = false → fs.knows entry.1 = false) (form : List (String × String)) :
    fs.ofForm (form.filter p) = fs.ofForm form := by
  have hfold : ∀ slots, (form.filter p).foldlM (fun slots (k, t) => fs.fillForm slots k t) slots =
      form.foldlM (fun slots (k, t) => fs.fillForm slots k t) slots := by
    induction form with
    | nil =>
      intro slots
      rfl
    | cons entry rest ih =>
      obtain ⟨key, text⟩ := entry
      intro slots
      rw [List.foldlM_cons]
      by_cases hp : p (key, text)
      · rw [List.filter_cons_of_pos hp, List.foldlM_cons]
        exact congrArg _ (funext ih)
      · have hkey : fs.knows key = false := h (key, text) (by simpa using hp)
        rw [List.filter_cons_of_neg hp, ih]
        show _ = fs.fillForm slots key text >>= _
        rw [fillForm_of_unknown hkey]
        rfl
  unfold ofForm
  rw [hfold]

end Wire

namespace Http

/-! ## Defects -/

/-- What can be wrong with a request on a route. -/
inductive Defect where
  /-- Another version of the protocol than the one expected. -/
  | version (expected : String) (provided : Option String)
  /-- A parameter of the path is no text. -/
  | path (p : Param)
  /-- The flag for operations in the background is neither true nor false. -/
  | flag (issue : Wire.Issue)
  | identity (fault : IdentityFault)
  | query (issue : Wire.Issue)
  /-- The body is not said to be JSON. -/
  | noJson
  /-- The body has more bytes than are taken in. -/
  | tooLong
  | body (fault : Wire.Fault)

namespace Defect

/-- The status of the answer to a defect. -/
def status : Defect → Nat
  | version _ _ => 412
  | path _ => 400
  | _ => 422

/-- The answer to a defect. -/
def response : Defect → Response
  | version expected provided => (Problem.unsupportedVersion expected provided).response
  | path p => (Rejection.path p).response
  | flag issue => (Rejection.query issue).response
  | identity fault => (Rejection.identity fault).response
  | query issue => (Rejection.query issue).response
  | noJson => Rejection.noJson.response
  | tooLong => Rejection.tooLong.response
  | body fault => (Rejection.body fault).response

theorem status_response (d : Defect) : d.response.status = d.status := by
  cases d <;> rfl

end Defect

variable {α β ε : Type}

/-- What is wrong with what was read. -/
def faults : Except ε α → List ε
  | .error e => [e]
  | .ok _ => []

/-- Another version of the protocol than the one expected, if one is. -/
def versionDefects (apiVersion : String) (r : Request) : List Defect :=
  match expectedVersion? apiVersion with
  | none => []
  | some expected =>
    let provided := r.headerText? apiVersionHeader
    if provided = some expected then [] else [.version expected provided]

/-- The parameters of a path that are no text. -/
def pathDefects (raw : RawParams) : List Defect :=
  raw.filterMap fun (p, chars) => if percentText? chars = none then some (.path p) else none

/-- What is wrong with the flag for operations in the background, on a method that looks at it. -/
def flagDefects (m : Method) (r : Request) : List Defect :=
  match m with
  | .get => []
  | .put | .patch | .delete =>
    (faults (Wire.decodeForm AcceptsIncomplete (parseQuery r.query))).map .flag

/-- What is wrong with the identity of the user, if one is given. -/
def identityDefects (r : Request) : List Defect :=
  match r.headerText? OriginatingIdentity.headerName with
  | none => []
  | some value => (faults (OriginatingIdentity.parse value.toList)).map .identity

/-- What is wrong with a query that is read as a message. -/
def queryDefects (α : Type) [Wire.Message α] (r : Request) : List Defect :=
  (faults (Wire.decodeForm α (parseQuery r.query))).map .query

/-- What is wrong with a body that is read as a message. -/
def bodyDefects (α : Type) [Wire.Message α] (r : Request) : List Defect :=
  if saysJson r then
    (if bodyLimit < r.body.length then [.tooLong] else []) ++
      (faults (Wire.decodeFront α r.body)).map .body
  else [.noJson]

/-- What is wrong with what an operation reads: a body to create or update, a query to delete or
poll. -/
def contentDefects : Operation → Request → List Defect
  | .createInstance => bodyDefects Instance.CreateBody
  | .updateInstance => bodyDefects Instance.UpdateBody
  | .createBinding => bodyDefects Binding.CreateBody
  | .deleteInstance | .deleteBinding => queryDefects EntryQuery
  | .pollInstance | .pollBinding => queryDefects PollQuery
  | .getInstance | .getBinding => fun _ => []

/-- What keeps a request on a route from being a call, in order. -/
def callDefects (m : Method) (op : Operation) (raw : RawParams) (r : Request) : List Defect :=
  pathDefects raw ++ (flagDefects m r ++ (identityDefects r ++ contentDefects op r))

/-- **What is wrong with a request on a route**, in order: version, path, flag, identity, and what
its operation reads. -/
def defects (apiVersion : String) (m : Method) (op : Operation) (raw : RawParams) (r : Request) :
    List Defect :=
  versionDefects apiVersion r ++ callDefects m op raw r

/-! ## Parts and their defects -/

/-- A part of a request is read as its defects tell: refused with the answer to the first of them, or
without any passed, its value as `P` has it. -/
inductive Judged (P : α → Prop) : List Defect → Except Rejection α → Prop
  | refused {d : Defect} {ds : List Defect} {e : Rejection} (h : e.response = d.response) :
    Judged P (d :: ds) (.error e)
  | passed {a : α} (h : P a) : Judged P [] (.ok a)

variable {P : α → Prop} {Q : β → Prop} {ds ds' : List Defect} {x : Except Rejection α}

/-- **Parts one after the other** have the defects of both, those of the first in front. -/
theorem Judged.bind {f : α → Except Rejection β} (h : Judged P ds x)
    (hf : ∀ a, P a → Judged Q ds' (f a)) : Judged Q (ds ++ ds') (x >>= f) := by
  cases h with
  | refused h => exact .refused h
  | passed ha => exact hf _ ha

/-- A part that is only made into something else. -/
theorem Judged.bind_passed {f : α → Except Rejection β} (h : Judged P ds x)
    (hf : ∀ a, P a → Judged Q [] (f a)) : Judged Q ds (x >>= f) := by
  rw [← List.append_nil ds]
  exact h.bind hf

theorem Judged.map {g : α → β} (h : Judged P ds x) (hg : ∀ a, P a → Q (g a)) :
    Judged Q ds (x.map g) := by
  cases h with
  | refused h => exact .refused h
  | passed ha => exact .passed (hg _ ha)

theorem judged_mapError {x : Except ε α} {reject : ε → Rejection} {defect : ε → Defect}
    (h : ∀ e, (reject e).response = (defect e).response) :
    Judged (fun _ => True) ((faults x).map defect) (x.mapError reject) := by
  cases x with
  | error e => exact .refused (h e)
  | ok a => exact .passed trivial

theorem judged_decodeParams (raw : RawParams) :
    Judged (fun ps => ps.map (·.1) = raw.map (·.1)) (pathDefects raw) (decodeParams raw) := by
  induction raw with
  | nil => exact .passed rfl
  | cons x rest ih =>
    obtain ⟨p, chars⟩ := x
    cases htext : percentText? chars with
    | none =>
      have hds : pathDefects ((p, chars) :: rest) = .path p :: pathDefects rest := by
        simp [pathDefects, htext]
      rw [hds]
      simp only [decodeParams, htext]
      exact .refused rfl
    | some s =>
      have hds : pathDefects ((p, chars) :: rest) = pathDefects rest := by
        simp [pathDefects, htext]
      rw [hds]
      simp only [decodeParams, htext]
      exact ih.map fun ps hps => congrArg (p :: ·) hps

theorem asyncFlag_eq (op : Operation) (r : Request) :
    asyncFlag op r = if op.changes then acceptsIncomplete r else .ok false := by
  cases op <;> rfl

theorem asyncFlag_of_reads {op : Operation} (hop : op.changes = false) (r : Request) :
    asyncFlag op r = .ok false := by
  rw [asyncFlag_eq, hop, if_neg Bool.false_ne_true]

theorem judged_asyncFlag {op : Operation} {m : Method} (hm : op.changes = true ↔ m ≠ .get)
    (r : Request) : Judged (fun _ => True) (flagDefects m r) (asyncFlag op r) := by
  have hread : Judged (fun _ => True)
      ((faults (Wire.decodeForm AcceptsIncomplete (parseQuery r.query))).map .flag)
      (acceptsIncomplete r) := (judged_mapError fun _ => rfl).map fun _ _ => trivial
  rw [asyncFlag_eq]
  by_cases hop : op.changes
  · rw [if_pos hop]
    cases m with
    | get => exact absurd rfl (hm.1 hop)
    | _ => exact hread
  · have hget : m = .get := Decidable.not_not.1 fun h => hop (hm.2 h)
    rw [if_neg hop, hget]
    exact .passed trivial

theorem judged_envelope (ps : Params) (r : Request) :
    Judged (fun _ => True) (identityDefects r) (envelope ps r) := by
  refine Judged.map (P := fun _ => True) ?_ fun _ _ => trivial
  unfold identityDefects originatingIdentity
  cases r.headerText? OriginatingIdentity.headerName with
  | none => exact .passed trivial
  | some value =>
    simp only
    cases OriginatingIdentity.parse value.toList with
    | ok i => exact .passed trivial
    | error fault => exact .refused rfl

theorem judged_queryAs (α : Type) [Wire.Message α] (r : Request) :
    Judged (fun _ => True) (queryDefects α r) (queryAs α r) := judged_mapError fun _ => rfl

theorem judged_bodyAs (α : Type) [Wire.Message α] (r : Request) :
    Judged (fun _ => True) (bodyDefects α r) (bodyAs α r) := by
  unfold bodyDefects bodyAs
  cases saysJson r with
  | false => exact .refused rfl
  | true =>
    show Judged _ (_ ++ _) (if bodyLimit < r.body.length then _ else _)
    by_cases hlong : bodyLimit < r.body.length
    · rw [if_pos hlong, if_pos hlong]
      exact .refused rfl
    · rw [if_neg hlong, if_neg hlong, List.nil_append]
      exact judged_mapError fun _ => rfl

/-! ## The call of a request -/

/-- The parts of a request are put together: nothing is missing that the operation asks for. -/
theorem judged_inbound {ps : Params} (accepted : Bool) (env : Envelope) (body : β)
    {g : Inbound β → Call} {op : Operation} (hp : Param.instanceId ∈ ps.map (·.1))
    (hg : ∀ i, (g i).operation = op) :
    Judged (fun c => c.operation = op) [] (g <$> inbound ps accepted env body) := by
  obtain ⟨s, hs⟩ := Params.require_of_mem hp
  unfold inbound
  rw [hs]
  exact .passed (hg _)

theorem judged_bindingInbound {ps : Params} (accepted : Bool) (env : Envelope) (body : β)
    {g : BindingInbound β → Call} {op : Operation} (hp : Param.instanceId ∈ ps.map (·.1))
    (hq : Param.bindingId ∈ ps.map (·.1)) (hg : ∀ i, (g i).operation = op) :
    Judged (fun c => c.operation = op) [] (g <$> bindingInbound ps accepted env body) := by
  obtain ⟨s, hs⟩ := Params.require_of_mem hp
  obtain ⟨t, ht⟩ := Params.require_of_mem hq
  unfold bindingInbound
  rw [hs, ht]
  exact .passed (hg _)

/-- **A request on a route is read as its defects tell**: it is refused for the first of them, or it
is a call of the operation. -/
theorem judged_call {op : Operation} {m : Method} {raw : RawParams}
    (hm : op.changes = true ↔ m ≠ .get) (hraw : ∀ p ∈ op.asksFor, p ∈ raw.map (·.1)) (r : Request) :
    Judged (fun c => c.operation = op) (callDefects m op raw r) (call op raw r) := by
  unfold call
  -- each part is read behind those before it, so their defects stand in front of its own
  refine (judged_decodeParams raw).bind fun ps hps => ?_
  refine (judged_asyncFlag hm r).bind fun accepted _ => ?_
  refine (judged_envelope ps r).bind fun env _ => ?_
  rw [← hps] at hraw
  cases op with
  | createInstance =>
    exact (judged_bodyAs _ r).bind_passed fun body _ =>
      judged_inbound accepted env body (hraw _ (by decide)) fun _ => rfl
  | updateInstance =>
    exact (judged_bodyAs _ r).bind_passed fun body _ =>
      judged_inbound accepted env body (hraw _ (by decide)) fun _ => rfl
  | deleteInstance =>
    exact (judged_queryAs _ r).bind_passed fun query _ =>
      judged_inbound accepted env query (hraw _ (by decide)) fun _ => rfl
  | getInstance => exact judged_inbound accepted env () (hraw _ (by decide)) fun _ => rfl
  | pollInstance =>
    exact (judged_queryAs _ r).bind_passed fun query _ =>
      judged_inbound accepted env query (hraw _ (by decide)) fun _ => rfl
  | createBinding =>
    exact (judged_bodyAs _ r).bind_passed fun body _ =>
      judged_bindingInbound accepted env body (hraw _ (by decide)) (hraw _ (by decide)) fun _ => rfl
  | deleteBinding =>
    exact (judged_queryAs _ r).bind_passed fun query _ =>
      judged_bindingInbound accepted env query (hraw _ (by decide)) (hraw _ (by decide)) fun _ => rfl
  | getBinding =>
    exact judged_bindingInbound accepted env () (hraw _ (by decide)) (hraw _ (by decide)) fun _ => rfl
  | pollBinding =>
    exact (judged_queryAs _ r).bind_passed fun query _ =>
      judged_bindingInbound accepted env query (hraw _ (by decide)) (hraw _ (by decide)) fun _ => rfl

/-! ## The reply to a request -/

/-- The content that a request is shown: none if it asks for the head of a response. -/
def Request.shown (r : Request) (content : Content) : Content :=
  if r.method = "HEAD" then .empty else content

/-- The reply as it leaves the server: only its head if that was asked for, with the echo. -/
def Reply.dressed (reply : Reply) (r : Request) : Reply :=
  echoIdentity (reply.headOnly ·) r

section Dressed

variable (inner : Request → Reply) (reply : Reply) (r : Request)

theorem echoIdentity_report : (echoIdentity inner r).report = (inner r).report := by
  unfold echoIdentity
  split <;> rfl

theorem echoIdentity_status :
    (echoIdentity inner r).response.status = (inner r).response.status := by
  unfold echoIdentity
  split <;> rfl

theorem echoIdentity_content :
    (echoIdentity inner r).response.content = (inner r).response.content := by
  unfold echoIdentity
  split <;> rfl

theorem Reply.dressed_report : (reply.dressed r).report = reply.report := by
  unfold dressed
  rw [echoIdentity_report]
  unfold headOnly
  split <;> rfl

theorem Reply.dressed_status : (reply.dressed r).response.status = reply.response.status := by
  unfold dressed
  rw [echoIdentity_status]
  unfold headOnly
  split <;> rfl

theorem Reply.dressed_content :
    (reply.dressed r).response.content = r.shown reply.response.content := by
  unfold dressed
  rw [echoIdentity_content]
  unfold headOnly Request.shown
  split <;> rfl

end Dressed

theorem versionGate_eq (apiVersion : String) (r : Request) :
    versionGate apiVersion r = (versionDefects apiVersion r).head?.map (·.response) := by
  unfold versionGate versionDefects
  cases expectedVersion? apiVersion with
  | none => rfl
  | some expected =>
    simp only
    split <;> rfl

variable {apiVersion : String} {b : Broker} {r : Request} {route : Route} {raw : RawParams}
  {m : Method} {op : Operation}

/-- The reply to a request for an operation: that behind the gate, dressed. -/
theorem app_of_mounted (hroute : (brokerTable b.bindings.isSome).find? r.path = some (route, raw))
    (hm : Method.ofName? r.method = some m) (hop : route.endpoint? m = some (.operation op)) :
    app apiVersion b r =
      ((versionGate apiVersion).guard r ((Endpoint.operation op).handle b raw r)).dressed r := by
  unfold app Reply.dressed echoIdentity Table.handle
  simp only [hroute, hm, Option.bind_some, hop]

/-- The reply to a request that passes the gate and makes a call: the answer, dressed. -/
theorem app_of_call (hroute : (brokerTable b.bindings.isSome).find? r.path = some (route, raw))
    (hm : Method.ofName? r.method = some m) (hop : route.endpoint? m = some (.operation op))
    (hgate : versionGate apiVersion r = none) {c : Call} (hcall : call op raw r = .ok c)
    {report : Report} (hreport : b.perform? c = some report) :
    app apiVersion b r = Reply.dressed ⟨answerResponse report.answer, some report⟩ r := by
  rw [app_of_mounted hroute hm hop]
  unfold Gate.guard Endpoint.handle perform
  simp only [hgate, hcall, hreport]

section Mounted

variable (hm : op.changes = true ↔ m ≠ .get) (hraw : ∀ p ∈ op.asksFor, p ∈ raw.map (·.1))

include hm hraw

/-- **With a defect**, the first one is answered. -/
theorem guard_of_defect {d : Defect} {ds : List Defect}
    (hds : defects apiVersion m op raw r = d :: ds) :
    (versionGate apiVersion).guard r ((Endpoint.operation op).handle b raw r) =
      ⟨d.response, none⟩ := by
  unfold Gate.guard
  rw [versionGate_eq]
  unfold defects at hds
  cases hversion : versionDefects apiVersion r with
  | cons v vs =>
    rw [hversion] at hds
    obtain ⟨rfl, -⟩ := List.cons.inj hds
    rfl
  | nil =>
    -- the gate lets the request pass, and all its defects are those of the call
    rw [hversion] at hds
    have hcall := judged_call hm hraw r
    rw [show callDefects m op raw r = d :: ds from hds] at hcall
    show (Endpoint.operation op).handle b raw r = _
    unfold Endpoint.handle
    cases hc : call op raw r with
    | ok c => rw [hc] at hcall; cases hcall
    | error e =>
      rw [hc] at hcall
      cases hcall with
      | refused he => simp only [hc, he]

/-- **Without a defect**, the request is a call of the operation, and that is performed. -/
theorem guard_of_no_defect (hds : defects apiVersion m op raw r = []) :
    ∃ c, call op raw r = .ok c ∧ c.operation = op ∧
      (versionGate apiVersion).guard r ((Endpoint.operation op).handle b raw r) = perform b c := by
  obtain ⟨hversion, hcalls⟩ := List.append_eq_nil_iff.1 hds
  have hcall := judged_call hm hraw r
  rw [hcalls] at hcall
  cases hc : call op raw r with
  | error e => rw [hc] at hcall; cases hcall
  | ok c =>
    rw [hc] at hcall
    cases hcall with
    | passed hop =>
      refine ⟨c, rfl, hop, ?_⟩
      unfold Gate.guard Endpoint.handle
      rw [versionGate_eq, hversion]
      simp only [List.head?_nil, Option.map_none, hc]

end Mounted

/-! ## What a method that only reads makes of the flag -/

/-- The entries of a query besides the flag for operations in the background. -/
def Request.otherEntries (r : Request) : List (String × String) :=
  (parseQuery r.query).filter (·.1 ≠ "accepts_incomplete")

/-- Two requests differ in the flag alone, as far as what a method that only reads looks at. -/
structure SameButFlag (r' r : Request) : Prop where
  method : r'.method = r.method
  path : r'.path = r.path
  headers : r'.headers = r.headers
  entries : r'.otherEntries = r.otherEntries

namespace SameButFlag

variable {r' : Request} (h : SameButFlag r' r)

include h

theorem header? (name : String) : r'.header? name = r.header? name := by
  unfold Request.header?
  rw [h.headers]

theorem headerText? (name : String) : r'.headerText? name = r.headerText? name := by
  unfold Request.headerText?
  rw [h.header?]

theorem queryAs_pollQuery : queryAs PollQuery r' = queryAs PollQuery r := by
  have hform : ∀ form : List (String × String),
      (Wire.Message.shape PollQuery).ofForm (form.filter (·.1 ≠ "accepts_incomplete")) =
        (Wire.Message.shape PollQuery).ofForm form := by
    refine Wire.Fields.ofForm_filter fun entry hentry => ?_
    -- an entry that is left out is the flag, and no part of a poll is named so
    have hflag : entry.1 = "accepts_incomplete" := by simpa using hentry
    rw [hflag]
    decide
  unfold queryAs Wire.decodeForm
  rw [← hform (parseQuery r'.query), ← hform (parseQuery r.query)]
  exact congrArg _ (congrArg _ (congrArg _ h.entries))

theorem envelope (ps : Params) : Http.envelope ps r' = Http.envelope ps r := by
  unfold Http.envelope originatingIdentity
  simp only [h.headerText?]

/-- **The call of what only reads** does not depend on the flag. -/
theorem call (hop : op.changes = false) : Http.call op raw r' = Http.call op raw r := by
  unfold Http.call
  simp only [h.envelope, asyncFlag_of_reads hop]
  cases op with
  | getInstance => rfl
  | getBinding => rfl
  | pollInstance => simp only [h.queryAs_pollQuery]
  | pollBinding => simp only [h.queryAs_pollQuery]
  | _ => cases hop

theorem versionGate : Http.versionGate apiVersion r' = Http.versionGate apiVersion r := by
  unfold Http.versionGate
  rw [h.headerText?]

theorem dressed (reply : Reply) : reply.dressed r' = reply.dressed r := by
  unfold Reply.dressed echoIdentity Reply.headOnly
  simp only [h.header?, h.method]

/-- **A method that only reads ignores the flag.** -/
theorem app (hroute : (brokerTable b.bindings.isSome).find? r.path = some (route, raw))
    (hm : Method.ofName? r.method = some m) (hop : route.endpoint? m = some (.operation op))
    (hget : op.changes = false) : Http.app apiVersion b r' = Http.app apiVersion b r := by
  have hcall : (Endpoint.operation op).handle b raw r' = (Endpoint.operation op).handle b raw r := by
    unfold Endpoint.handle
    simp only [h.call hget]
  rw [app_of_mounted hroute hm hop,
    app_of_mounted (h.path ▸ hroute) (h.method ▸ hm) hop, h.dressed, hcall]
  unfold Gate.guard
  rw [h.versionGate]

end SameButFlag

/-! ## The law of the transport -/

/-- The reply turns a request away for a defect: its answer is that to the defect, no call was made,
and no session changes. -/
structure Reply.TurnsAway (reply : Reply) (r : Request) (d : Defect) : Prop where
  status : reply.response.status = d.status
  content : reply.response.content = r.shown d.response.content
  unreported : reply.report = none
  unchanged : ∀ s : Session, afterReply s reply = s

/-- The reply tells what a call came to: its answer is that of the report, an empty body an object
without members, and a session records the report once. -/
structure Reply.Tells (reply : Reply) (r : Request) (report : Report) : Prop where
  status : reply.response.status = report.answer.status
  content : reply.response.content = r.shown (.json report.answer.body.toJson)
  empty : report.answer.body = .empty → reply.response.content = r.shown (.json (.object []))
  reported : reply.report = some report
  recorded : ∀ s : Session, afterReply s reply = { s with ledger := s.ledger.record report }

theorem Reply.turnsAway (r : Request) (d : Defect) :
    (Reply.dressed ⟨d.response, none⟩ r).TurnsAway r d where
  status := by rw [dressed_status, d.status_response]
  content := dressed_content _ _
  unreported := dressed_report _ _
  unchanged s := by unfold afterReply; rw [dressed_report]

theorem Reply.tells (r : Request) (report : Report) :
    (Reply.dressed ⟨answerResponse report.answer, some report⟩ r).Tells r report where
  status := dressed_status _ _
  content := dressed_content _ _
  empty h := by rw [dressed_content]; simp only [answerResponse, h]; rfl
  reported := dressed_report _ _
  recorded s := by unfold afterReply; rw [dressed_report]

/-- **The law of the transport**, for a request on a mounted route and method. With defects, the
first of them decides the answer and nothing else happens. Without any, the request is one call of
the operation mounted there, which is performed once and answered. On `GET` the flag for operations
in the background is ignored. -/
theorem app_turns_away_or_performs (apiVersion : String) (b : Broker) (r : Request) {route : Route}
    {raw : RawParams} {m : Method} {op : Operation}
    (hroute : (brokerTable b.bindings.isSome).find? r.path = some (route, raw))
    (hm : Method.ofName? r.method = some m) (hop : route.endpoint? m = some (.operation op)) :
    (match defects apiVersion m op raw r with
      | d :: _ => (app apiVersion b r).TurnsAway r d
      | [] => ∃ c report, call op raw r = .ok c ∧ c.operation = op ∧ b.perform? c = some report ∧
          report.operation = op ∧ (app apiVersion b r).Tells r report) ∧
      (m = .get → ∀ r', SameButFlag r' r → app apiVersion b r' = app apiVersion b r) := by
  obtain ⟨hmem, hkeys⟩ := params_of_find? hroute
  obtain ⟨hasks, hserves, hchanges⟩ := brokerTable_suits hmem hop
  rw [← hkeys] at hasks
  constructor
  · rw [app_of_mounted hroute hm hop]
    cases hds : defects apiVersion m op raw r with
    | cons d ds =>
      rw [guard_of_defect hchanges hasks hds]
      exact Reply.turnsAway r d
    | nil =>
      obtain ⟨c, hcall, hcop, hguard⟩ := guard_of_no_defect (b := b) hchanges hasks hds
      obtain ⟨report, hreport, hrop⟩ := Broker.perform?_of_serves (b := b) (hcop ▸ hserves)
      refine ⟨c, report, hcall, hcop, hreport, hrop.trans hcop, ?_⟩
      rw [hguard]
      unfold perform
      rw [hreport]
      exact Reply.tells r report
  · intro hget r' h
    have hreads : op.changes = false := by
      by_cases hc : op.changes
      · exact absurd hget (hchanges.1 hc)
      · exact Bool.eq_false_iff.2 hc
    exact h.app hroute hm hop hreads

/-- A request without a version and a body, whose path is no text and whose flag is none. -/
def brokenRequest : Request where
  method := "PUT"
  target := "/v2/service_instances/%ff?accepts_incomplete=maybe"

theorem app_turns_away_brokenRequest :
    (brokerTable Sample.broker.bindings.isSome).find? brokenRequest.path =
        some (⟨instancePattern,
          [(.get, .operation .getInstance), (.put, .operation .createInstance),
            (.patch, .operation .updateInstance), (.delete, .operation .deleteInstance)]⟩,
          [(.instanceId, ['%', 'f', 'f'])]) ∧
      (app "2.14" Sample.broker brokenRequest).TurnsAway brokenRequest (.version "2.14" none) := by
  have hroute : (brokerTable Sample.broker.bindings.isSome).find? brokenRequest.path =
      some (⟨instancePattern,
        [(.get, .operation .getInstance), (.put, .operation .createInstance),
          (.patch, .operation .updateInstance), (.delete, .operation .deleteInstance)]⟩,
        [(.instanceId, ['%', 'f', 'f'])]) := by decide
  have hop := (app_turns_away_or_performs "2.14" Sample.broker brokenRequest hroute
    (by decide : Method.ofName? brokenRequest.method = some .put) rfl).1
  exact ⟨hroute, hop⟩

end Http

end Brokerage
