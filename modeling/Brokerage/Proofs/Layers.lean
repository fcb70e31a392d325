import Brokerage.Proofs.ErrorBody
import Brokerage.Proofs.Reading
import Brokerage.Proofs.RequestMetrics
import Brokerage.Proofs.Steering

/-!
# The layers around the routes

A server is its routes with two layers around them. The gate lets a request pass or answers it, whatever
stands behind; the echo puts the identity of the request on every answer, and nothing else does.

* `Http.Response.values`: what a response carries under a name, with `values_withHeader` and
  `values_withHeader_of_ne`.
* `Http.Response.Unechoed`, `unechoed_handle`: no route and no gate answers with the header of the echo.
* `Http.Table.refusal`, `handle_of_refused`: **behind a gate that turns a request away nothing is looked
  at** but whether something is mounted there. `handle_of_passed`: a gate that lets it pass is not felt.
* `Http.Reply.echoing`, `echoIdentity_eq`: the echo adds one header.
* `gate_and_echo_cover_every_answer`: **every answer is echoed and gated.** A mounted `GET` that is asked
  for its head turns a request away without a word.
-/

namespace Brokerage.Http

/-! ## Headers of a response -/

/-- The values that the response carries under a name. -/
def Response.values (x : Response) (name : String) : List (List UInt8) :=
  (x.headers.filter fun h => sameName h.1 name).map (·.2)

section Values

variable {x : Response} {name other : String} (value : List UInt8)

/-- A header that is put in stands alone under its name. -/
theorem values_withHeader : (x.withHeader name value).values name = [value] := by
  have hname : sameName name name = true := sameName_eq_true.2 rfl
  have hkept : ∀ h : String × List UInt8, (sameName h.1 name && !sameName h.1 name) = false :=
    fun h => Bool.and_not_self _
  unfold Response.withHeader Response.values
  simp only [List.filter_append, List.filter_filter, hkept, List.filter_false, List.nil_append]
  simp [hname]

/-- Headers of other names stay. -/
theorem values_withHeader_of_ne (hne : sameName other name = false) :
    (x.withHeader name value).values other = x.values other := by
  unfold Response.withHeader Response.values
  simp only [List.filter_append, List.filter_filter, sameName_and_not hne]
  simp [sameName_comm name other, hne]

end Values

/-! ## What the routes answer with -/

/-- The response carries no identity of a request. -/
def Response.Unechoed (x : Response) : Prop := x.values requestIdentityHeader = []

variable {b : Broker} {r : Request} {x : Response}

theorem unechoed_typed (status : Nat) (mediaType : String) (content : Content) :
    Response.Unechoed ⟨status, [textHeader "content-type" mediaType], content⟩ := by
  have hname : sameName "content-type" requestIdentityHeader = false := by decide +kernel
  simp [Response.Unechoed, Response.values, textHeader, hname]

theorem unechoed_json (status : Nat) (j : Json) : (Response.json status j).Unechoed :=
  unechoed_typed _ _ _

/-- A response of the server's own making carries none. -/
theorem unechoed_of_own (h : Own b x) : x.Unechoed := by
  cases h with
  | notFound => rfl
  | notAllowed => rfl
  | problem p => exact unechoed_json _ _
  | text status s => exact unechoed_typed _ _ _
  | catalog => exact unechoed_json _ _

theorem unechoed_withAllowed (h : x.Unechoed) (methods : List String) :
    (x.withAllowed methods).Unechoed := by
  have hname : sameName requestIdentityHeader "allow" = false := by decide +kernel
  exact (values_withHeader_of_ne _ hname).trans h

theorem unechoed_headOnly {reply : Reply} (h : reply.response.Unechoed) :
    (reply.headOnly r).response.Unechoed := by
  unfold Reply.headOnly
  split
  · exact h
  · exact h

theorem unechoed_guard {g : Gate} {inner : Reply} (hg : ∀ y, g r = some y → y.Unechoed)
    (h : inner.response.Unechoed) : (g.guard r inner).response.Unechoed := by
  unfold Gate.guard
  cases hgate : g r with
  | none => exact h
  | some y => exact hg y hgate

theorem unechoed_endpoint (e : Endpoint) (raw : RawParams) :
    (e.handle b raw r).response.Unechoed := by
  unfold Endpoint.handle
  cases e with
  | catalog => exact unechoed_json _ _
  | operation op =>
    simp only
    cases call op raw r with
    | error rejection => exact unechoed_of_own (own_of_rejection (b := b) rejection)
    | ok c =>
      simp only [perform]
      cases b.perform? c with
      | none => exact unechoed_of_own (own_of_rejection (b := b) .noBindings)
      | some report => exact unechoed_json _ _

/-- **No answer of the routes carries the identity of a request**, whatever gate stands in front that
answers with none. -/
theorem unechoed_handle (t : Table) {g : Gate} (hg : ∀ y, g r = some y → y.Unechoed) :
    (t.handle g b r).response.Unechoed := by
  unfold Table.handle
  cases t.find? r.path with
  | none => exact unechoed_guard hg (unechoed_of_own (b := b) .notFound)
  | some found =>
    obtain ⟨route, raw⟩ := found
    simp only
    cases (Method.ofName? r.method).bind route.endpoint? with
    | none =>
      have hnone : (⟨notAllowed, none⟩ : Reply).response.Unechoed :=
        unechoed_of_own (b := b) .notAllowed
      exact unechoed_withAllowed (unechoed_guard hg hnone) _
    | some e => exact unechoed_headOnly (unechoed_guard hg (unechoed_endpoint e raw))

/-! ## The gate -/

/-- The reply to a request that is turned away with a response. -/
def Table.refusal (t : Table) (r : Request) (x : Response) : Reply :=
  match t.find? r.path with
  | none => ⟨x, none⟩
  | some (route, _) =>
    match (Method.ofName? r.method).bind route.endpoint? with
    | none => ⟨x.withAllowed route.allowed, none⟩
    | some _ => Reply.headOnly ⟨x, none⟩ r

variable {t : Table} {g : Gate}

/-- **A request that is turned away** gets no further: no broker is asked. -/
theorem handle_of_refused (hg : g r = some x) : t.handle g b r = t.refusal r x := by
  have hguard : ∀ inner : Reply, g.guard r inner = ⟨x, none⟩ := by
    intro inner
    unfold Gate.guard
    rw [hg]
  unfold Table.handle Table.refusal
  cases t.find? r.path with
  | none => exact hguard _
  | some found =>
    obtain ⟨route, raw⟩ := found
    simp only
    cases (Method.ofName? r.method).bind route.endpoint? with
    | none => simp only [hguard]
    | some e => simp only [hguard]

/-- **A request that passes** is dealt with as if there were no gate. -/
theorem handle_of_passed (hg : g r = none) : t.handle g b r = t.handle .opened b r := by
  unfold Table.handle Gate.guard
  simp only [hg, Gate.opened]

theorem refusal_report : (t.refusal r x).report = none := by
  unfold Table.refusal Reply.headOnly
  split
  · rfl
  · split
    · rfl
    · split <;> rfl

theorem refusal_status : (t.refusal r x).response.status = x.status := by
  unfold Table.refusal Reply.headOnly
  split
  · rfl
  · split
    · rfl
    · split <;> rfl

/-- A refusal keeps its content, unless the head is asked for of what is mounted. -/
theorem refusal_content (bindings : Bool) : ((brokerTable bindings).refusal r x).response.content =
    if r.method = "HEAD" ∧ (mounted? bindings r).isSome then .empty else x.content := by
  unfold Table.refusal mounted?
  cases (brokerTable bindings).find? r.path with
  | none => simp
  | some found =>
    obtain ⟨route, raw⟩ := found
    cases hm : Method.ofName? r.method with
    | none => simp [Response.withAllowed, Response.withHeader]
    | some m =>
      cases he : route.endpoint? m with
      | none => simp [he, Response.withAllowed, Response.withHeader]
      | some e =>
        by_cases hhead : r.method = "HEAD"
        · simp [he, Reply.headOnly, hhead, Response.withoutContent]
        · simp [he, Reply.headOnly, hhead]

variable {apiVersion : String}

theorem versionGate_of_match
    (h : apiVersion = "*" ∨ r.headerText? apiVersionHeader = some apiVersion) :
    versionGate apiVersion r = none := by
  unfold versionGate expectedVersion?
  by_cases hany : apiVersion = "*"
  · simp [hany]
  · simp [hany, h.resolve_left hany]

theorem versionGate_of_mismatch (hany : apiVersion ≠ "*")
    (h : r.headerText? apiVersionHeader ≠ some apiVersion) :
    versionGate apiVersion r =
      some (Problem.unsupportedVersion apiVersion (r.headerText? apiVersionHeader)).response := by
  unfold versionGate expectedVersion?
  simp [hany, h]

/-! ## The echo -/

/-- The reply with the identity of the request, as it came, behind the headers that it has. -/
def Reply.echoing (reply : Reply) (r : Request) : Reply :=
  { reply with response := { reply.response with
    headers := reply.response.headers ++
      (r.header? requestIdentityHeader).toList.map fun value => (requestIdentityHeader, value) } }

/-- **The echo adds one header** to an answer that does not carry it. -/
theorem echoIdentity_eq {inner : Request → Reply} (h : (inner r).response.Unechoed) :
    echoIdentity inner r = (inner r).echoing r := by
  have hkept : ((inner r).response.headers.filter fun h => !sameName h.1 requestIdentityHeader) =
      (inner r).response.headers := by
    have hnone := List.map_eq_nil_iff.1 h
    rw [List.filter_eq_nil_iff] at hnone
    refine List.filter_eq_self.2 fun header hheader => ?_
    simpa using hnone header hheader
  unfold echoIdentity Reply.echoing
  cases r.header? requestIdentityHeader with
  | none => simp
  | some value =>
    unfold Response.withHeader
    simp [hkept]

/-- What is echoed is what was sent, once or not at all. -/
theorem values_echoIdentity {inner : Request → Reply} (h : (inner r).response.Unechoed) :
    (echoIdentity inner r).response.values requestIdentityHeader =
      (r.header? requestIdentityHeader).toList := by
  unfold echoIdentity
  cases r.header? requestIdentityHeader with
  | none => exact h
  | some value => exact values_withHeader value

/-! ## Both -/

/-- The words for a version of the protocol that is not the expected one. -/
def versionWords (expected : String) (provided : Option String) : String :=
  "The provided service broker API version is not supported: expected version=" ++ expected ++
    ", provided version=" ++ provided.getD "null"

/-- The reply turns a request away for its version: with status 412 and in words that name both
versions, unless the head is asked for of what is mounted. No call was made, no session changes, and any
other broker with the same routes would have replied so. -/
structure Reply.RefusesVersion (reply : Reply) (apiVersion : String) (b : Broker) (r : Request) :
    Prop where
  status : reply.response.status = 412
  content : reply.response.content =
    if r.method = "HEAD" ∧ (mounted? b.bindings.isSome r).isSome then .empty
    else .json (.object
      [("description", .text (versionWords apiVersion (r.headerText? apiVersionHeader)))])
  unreported : reply.report = none
  unchanged : ∀ s : Session, afterReply s reply = s
  untouched : ∀ b' : Broker, b'.bindings.isSome = b.bindings.isSome → app apiVersion b' r = reply

/-- **Another version is refused**, or none that can be read. -/
theorem app_refuses_version (hany : apiVersion ≠ "*")
    (h : r.headerText? apiVersionHeader ≠ some apiVersion) :
    (app apiVersion b r).RefusesVersion apiVersion b r := by
  have hgate := versionGate_of_mismatch hany h
  have hreport : (app apiVersion b r).report = none := by
    unfold app
    rw [echoIdentity_report, handle_of_refused hgate, refusal_report]
  constructor
  · unfold app
    rw [echoIdentity_status, handle_of_refused hgate, refusal_status]
    rfl
  · unfold app
    rw [echoIdentity_content, handle_of_refused hgate, refusal_content]
    rfl
  · exact hreport
  · intro s
    unfold afterReply
    rw [hreport]
  · -- only the routes depend on the broker, by what it serves
    intro b' hbindings
    unfold app echoIdentity
    simp only [hbindings, handle_of_refused hgate]

/-- **Gate and echo cover every answer**, whatever is asked for. The answer carries the identity of the
request if the request does, once and as it first came. A request of another version is refused: with
status 412 and in words that name both versions, but for the content that an answer for a head does not
have; nothing behind the gate is touched. With the expected version, or where any will do, the answer is
that of the bare routes with the echo. -/
theorem gate_and_echo_cover_every_answer (apiVersion : String) (b : Broker) (r : Request) :
    (app apiVersion b r).response.values requestIdentityHeader =
        (r.header? requestIdentityHeader).toList ∧
      (apiVersion ≠ "*" → r.headerText? apiVersionHeader ≠ some apiVersion →
        (app apiVersion b r).RefusesVersion apiVersion b r) ∧
      (apiVersion = "*" ∨ r.headerText? apiVersionHeader = some apiVersion →
        app apiVersion b r = (serve b r).echoing r) := by
  have hunechoed : ((brokerTable b.bindings.isSome).handle (versionGate apiVersion) b
      r).response.Unechoed := unechoed_handle _ fun y hy =>
      unechoed_of_own (own_of_gate hy : Own b y)
  refine ⟨values_echoIdentity hunechoed, app_refuses_version, fun h => ?_⟩
  have hpassed := handle_of_passed (t := brokerTable b.bindings.isSome) (b := b)
    (versionGate_of_match h)
  unfold app serve
  rw [echoIdentity_eq hunechoed, hpassed]

end Brokerage.Http

namespace Brokerage.Sample

/-- A request for the head of the catalog that names no version. -/
def headOfCatalog : Http.Request where
  method := "HEAD"
  target := "/v2/catalog"

/-- **A request can be refused without a word**: only the head of the answer was asked for. -/
theorem head_is_refused_without_words :
    "2.13" ≠ "*" ∧ headOfCatalog.headerText? Http.apiVersionHeader ≠ some "2.13" ∧
      (Http.app "2.13" broker headOfCatalog).response.status = 412 ∧
      (Http.app "2.13" broker headOfCatalog).response.content = .empty ∧
      ¬∃ j, (Http.app "2.13" broker headOfCatalog).response.content = .json j ∧
        j.Describes (Http.versionWords "2.13" (headOfCatalog.headerText? Http.apiVersionHeader)) := by
  have hany : "2.13" ≠ "*" := by decide
  have hversion : headOfCatalog.headerText? Http.apiVersionHeader ≠ some "2.13" := nofun
  have hrefused := Http.app_refuses_version (b := broker) hany hversion
  have hmounted : (Http.mounted? broker.bindings.isSome headOfCatalog).isSome = true := by
    decide +kernel
  have hempty : (Http.app "2.13" broker headOfCatalog).response.content = .empty := by
    rw [hrefused.content, if_pos ⟨rfl, hmounted⟩]
  refine ⟨hany, hversion, hrefused.status, hempty, ?_⟩
  rintro ⟨j, hj, -⟩
  rw [hempty] at hj
  cases hj

end Brokerage.Sample
