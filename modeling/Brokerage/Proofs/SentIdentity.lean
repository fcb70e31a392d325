import Brokerage.Proofs.Handover
import Brokerage.Proofs.Identity
import Brokerage.Proofs.Reading

/-!
# What becomes of a sent identity

A platform names the user on whose behalf it makes a request in a header. A value that is text is
either refused or handed on as the identity that it holds. A value with a byte that is neither visible
ASCII nor a blank is not refused: the request is dealt with as if the header were not there.

* `Http.parse_of_envelope`: an envelope carries the identity that the header holds.
* `sent_identity_is_handed_on_or_unread`: **a sent identity is refused, handed on, or not read at all.**
* `Sample.unread_identity_is_ignored`: the last does happen.
-/

namespace Brokerage

/-- What a text in the header holds is the identity of the request. -/
theorem Http.originatingIdentity_of_text {r : Http.Request} {value : String}
    {i : OriginatingIdentity} (hvalue : r.headerText? OriginatingIdentity.headerName = some value)
    (hparse : OriginatingIdentity.parse value.toList = .ok i) :
    Http.originatingIdentity r = .ok (some i) := by
  unfold Http.originatingIdentity
  simp only [hvalue, hparse]

/-- Without a text in the header, the request is one on behalf of nobody. -/
theorem Http.originatingIdentity_of_unread {r : Http.Request}
    (hvalue : r.headerText? OriginatingIdentity.headerName = none) :
    Http.originatingIdentity r = .ok none := by
  unfold Http.originatingIdentity
  simp only [hvalue]

/-- **An envelope carries the identity that the header holds.** -/
theorem Http.parse_of_envelope {ps : Http.Params} {r : Http.Request} {env : Envelope}
    (henv : Http.envelope ps r = .ok env) {value : String}
    (hvalue : r.headerText? OriginatingIdentity.headerName = some value) :
    ∃ i, OriginatingIdentity.parse value.toList = .ok i ∧ env.originatingIdentity = some i := by
  obtain ⟨-, -, -, hidentity⟩ := Http.envelope_eq_ok henv
  rw [hvalue, Option.map_some] at hidentity
  obtain ⟨i, hi, hparse⟩ := Option.map_eq_some_iff.1 hidentity.symm
  exact ⟨i, hparse.symm, hi⟩

/-- **What becomes of a sent identity.** When the header is text and the request is performed, the text
holds an identity, and every request that the call is resolved to, for the hooks and for the service,
carries this one; a text that holds none is refused. When the header is no text, the reply is the one
to the request without it. -/
theorem sent_identity_is_handed_on_or_unread (apiVersion : String) (b : Broker) (r : Http.Request) :
    match r.headerText? OriginatingIdentity.headerName with
    | some value => ∀ report, (Http.app apiVersion b r).report = some report →
        ∃ i c, OriginatingIdentity.parse value.toList = .ok i ∧ b.perform? c = some report ∧
          (∀ q, c.resolve b.catalog = .ok q → q.envelope.originatingIdentity = some i) ∧
          ∀ q ∈ report.requests, q.envelope.originatingIdentity = some i
    | none => Http.app apiVersion b r =
        Http.app apiVersion b (r.without OriginatingIdentity.headerName) := by
  cases hvalue : r.headerText? OriginatingIdentity.headerName with
  | none => exact (Http.seenAlike_without (by decide +kernel) hvalue).app apiVersion b
  | some value =>
    intro report hreport
    obtain ⟨route, raw, ps, env, c, -, -, henv, hperform, hresolved, hgiven⟩ :=
      Http.envelope_of_report hreport
    obtain ⟨i, hparse, hi⟩ := Http.parse_of_envelope henv hvalue
    refine ⟨i, c, hparse, hperform, fun q hq => ?_, fun q hq => ?_⟩
    · rw [hresolved q hq, hi]
    · rw [hgiven q hq, hi]

namespace Sample

/-- A request to delete the instance on behalf of a user whose header value is given. -/
def deletionFor (user : String) : Http.Request where
  method := "DELETE"
  target := "/v2/service_instances/i?service_id=sd-1&plan_id=plan-1"
  headers := [Http.textHeader OriginatingIdentity.headerName user]

/-- A broker of the catalog that says yes to everything. -/
def willing : Broker := { broker with instances := .scripted {} }

/-- What the request deletes, for a user that could be read or for none. -/
def deletionOf (user : Option OriginatingIdentity) : Inbound EntryQuery where
  instanceId := "i"
  envelope := { originatingIdentity := user }
  body := entry

/-- The instance is deleted for the user that is read off the header. -/
theorem app_deletionFor {value : String} {user : Option OriginatingIdentity}
    (huser : Http.originatingIdentity (deletionFor value) = .ok user) :
    Http.app "*" willing (deletionFor value) =
      Http.Reply.dressed
        ⟨Http.answerResponse (willing.deleteInstance (deletionOf user)).answer,
          some (willing.deleteInstance (deletionOf user))⟩
        (deletionFor value) := by
  have hroute : (Http.brokerTable willing.bindings.isSome).find? (deletionFor value).path =
      some (⟨Http.instancePattern,
        [(.get, .operation .getInstance), (.put, .operation .createInstance),
          (.patch, .operation .updateInstance), (.delete, .operation .deleteInstance)]⟩,
        [(.instanceId, ['i'])]) := by
    show (Http.brokerTable willing.bindings.isSome).find? (deletionFor "").path = _
    decide +kernel
  have hentries : Http.parseQuery (deletionFor value).query =
      [("service_id", "sd-1"), ("plan_id", "plan-1")] := by
    show Http.parseQuery (deletionFor "").query = _
    decide +kernel
  have hflag : Http.asyncFlag .deleteInstance (deletionFor value) = .ok false := by
    unfold Http.asyncFlag Http.acceptsIncomplete Http.queryAs
    rw [hentries]
    rfl
  have hquery : Http.queryAs EntryQuery (deletionFor value) = .ok entry := by
    unfold Http.queryAs
    rw [hentries]
    rfl
  have hparams : Http.decodeParams [(.instanceId, ['i'])] = .ok [(.instanceId, "i")] := by
    have hinstance : Http.percentText? ['i'] = some "i" := by decide
    simp only [Http.decodeParams, hinstance]
    rfl
  -- the header with the identity is the only one
  have hother : ∀ name, Http.sameName OriginatingIdentity.headerName name = false →
      (deletionFor value).headerText? name = none := by
    intro name hname
    unfold Http.Request.headerText? Http.Request.header? Http.header?
    simp [deletionFor, Http.textHeader, hname]
  have hcall : Http.call .deleteInstance [(.instanceId, ['i'])] (deletionFor value) =
      .ok (.deleteInstance (deletionOf user)) := by
    unfold Http.call Http.envelope
    rw [hother Http.apiInfoLocationHeader (by decide +kernel),
      hother Http.requestIdentityHeader (by decide +kernel)]
    simp only [hparams, hflag, huser, hquery]
    rfl
  have hm : Http.Method.ofName? (deletionFor value).method = some .delete := by
    show Http.Method.ofName? "DELETE" = _
    decide
  exact Http.app_of_call hroute hm rfl rfl hcall rfl

/-- The header is the only one, and its text is that of its bytes. -/
theorem headerText?_deletionFor (value : String) :
    (deletionFor value).headerText? OriginatingIdentity.headerName =
      Http.visibleText? (Utf8.encode value.toList) := by
  have hname : Http.sameName OriginatingIdentity.headerName OriginatingIdentity.headerName = true :=
    beq_self_eq_true _
  unfold Http.Request.headerText? Http.Request.header? Http.header?
  simp [deletionFor, Http.textHeader, hname]

/-- A user whose header value can be read. -/
def readable : OriginatingIdentity := ⟨"cf", []⟩

theorem parse_readable : OriginatingIdentity.parse "cf e30=".toList = .ok readable := by
  have hsplit : OriginatingIdentity.splitSpace (Text.trim "cf e30=".toList) =
      some ("cf".toList, "e30=".toList) := by decide
  have hdecode : Base64.decode? (Text.trim "e30=".toList) = some (Json.object []).printBytes := by
    decide
  have hobject : Wire.Shape.object.ofText (Json.object []).printBytes = .ok [] :=
    Wire.ofText_printBytes (by decide) (by decide)
  unfold OriginatingIdentity.parse
  rw [hsplit]
  simp only [hdecode, hobject]
  rfl

/-- The user is read off the header, and the instance is deleted on the user's behalf. -/
theorem report_readable : (Http.app "*" willing (deletionFor "cf e30=")).report =
    some (willing.deleteInstance (deletionOf (some readable))) := by
  have hvalue : (deletionFor "cf e30=").headerText? OriginatingIdentity.headerName =
      some "cf e30=" := (headerText?_deletionFor _).trans (by decide)
  rw [app_deletionFor (Http.originatingIdentity_of_text hvalue parse_readable),
    Http.Reply.dressed_report]

/-- The identity that a text value holds is handed on. -/
theorem readable_identity_is_handed_on :
    (Http.app "*" willing (deletionFor "cf e30=")).report =
        some (willing.deleteInstance (deletionOf (some readable))) ∧
      (willing.deleteInstance (deletionOf (some readable))).requests ≠ [] ∧
      ∀ q ∈ (willing.deleteInstance (deletionOf (some readable))).requests,
        q.envelope.originatingIdentity = some readable := by
  have hvalue : (deletionFor "cf e30=").headerText? OriginatingIdentity.headerName =
      some "cf e30=" := (headerText?_deletionFor _).trans (by decide)
  have hlaw := sent_identity_is_handed_on_or_unread "*" willing (deletionFor "cf e30=")
  rw [hvalue] at hlaw
  obtain ⟨i, -, hi, -, -, hrequests⟩ := hlaw _ report_readable
  obtain rfl : i = readable := Except.ok.inj (hi.symm.trans parse_readable)
  exact ⟨report_readable, List.cons_ne_nil _ _, hrequests⟩

/-- **A sent identity can be ignored**: the value has a letter outside of ASCII, and the instance is
deleted on behalf of nobody. -/
theorem unread_identity_is_ignored :
    (deletionFor "cf é").headers =
        [(OriginatingIdentity.headerName, Utf8.encode "cf é".toList)] ∧
      (Http.app "*" willing (deletionFor "cf é")).response.status = 200 ∧
      (Http.app "*" willing (deletionFor "cf é")).report =
        some (willing.deleteInstance (deletionOf none)) ∧
      (willing.deleteInstance (deletionOf none)).requests.map (·.envelope.originatingIdentity) =
        [none] := by
  have hvalue : (deletionFor "cf é").headerText? OriginatingIdentity.headerName = none :=
    (headerText?_deletionFor _).trans (by decide)
  rw [app_deletionFor (Http.originatingIdentity_of_unread hvalue)]
  exact ⟨rfl, Http.Reply.dressed_status _ _, Http.Reply.dressed_report _ _, rfl⟩

end Sample

end Brokerage
