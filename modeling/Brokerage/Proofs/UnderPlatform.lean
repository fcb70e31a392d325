import Brokerage.Proofs.Percent
import Brokerage.Proofs.Platform
import Brokerage.Proofs.SentIdentity

/-!
# Paths under a platform

* `brokerTable_exclusive`, `Table.Exclusive.countP_le`: **no path fits two routes**, however its segments
  are named.
* `find?_underPlatform`: a path that fits a plain route fits the one under a platform with a segment in
  front.
* `Request.Under`: a request with a segment in front of its path.
* `app_under`: **the reply to such a request** is that to the request without the segment, from a broker
  whose services are told the platform.
* `platform_segment_names_the_platform`: **nothing but the platform of the envelope differs.**
-/

namespace Brokerage

namespace Http

/-! ## No path fits two routes -/

/-- Two patterns may fit the same segments: they are as long, and have no different literals in one
place. -/
def overlap : List Segment → List Segment → Bool
  | [], [] => true
  | .literal s :: pattern, .literal t :: pattern' => s == t && overlap pattern pattern'
  | _ :: pattern, _ :: pattern' => overlap pattern pattern'
  | _, _ => false

/-- What fits a pattern has a first segment that fits its first part, and the others fit the others. -/
theorem matchSegments_cons {part : Segment} {pattern : List Segment} {segs : List (List Char)}
    {raw : RawParams} (h : matchSegments (part :: pattern) segs = some raw) :
    ∃ seg segs' raw', segs = seg :: segs' ∧ matchSegments pattern segs' = some raw' ∧
      ∀ s, part = .literal s → seg = s.toList := by
  cases part with
  | literal s =>
    obtain ⟨segs', rfl, hrest⟩ := matchSegments_literal h
    refine ⟨s.toList, segs', raw, rfl, hrest, ?_⟩
    rintro t ⟨⟩
    rfl
  | param p =>
    obtain ⟨seg, segs', raw', rfl, -, hrest⟩ := matchSegments_param h
    exact ⟨seg, segs', raw', rfl, hrest, nofun⟩

/-- Patterns that fit the same segments overlap. -/
theorem overlap_of_match {pattern pattern' : List Segment} {segs : List (List Char)}
    {raw raw' : RawParams} (h : matchSegments pattern segs = some raw)
    (h' : matchSegments pattern' segs = some raw') : overlap pattern pattern' = true := by
  induction pattern generalizing pattern' segs raw raw' with
  | nil =>
    obtain ⟨rfl, -⟩ := matchSegments_nil h
    cases pattern' with
    | nil => rfl
    | cons part' rest' =>
      obtain ⟨_, _, _, hsegs, -⟩ := matchSegments_cons h'
      cases hsegs
  | cons part rest ih =>
    obtain ⟨seg, segs₁, raw₁, rfl, hrest, hliteral⟩ := matchSegments_cons h
    cases pattern' with
    | nil =>
      obtain ⟨hsegs, -⟩ := matchSegments_nil h'
      cases hsegs
    | cons part' rest' =>
      obtain ⟨_, _, raw₂, hsegs, hrest', hliteral'⟩ := matchSegments_cons h'
      obtain ⟨rfl, rfl⟩ := List.cons.inj hsegs
      have hoverlap := ih hrest hrest'
      cases part with
      | param p => exact hoverlap
      | literal s =>
        cases part' with
        | param p => exact hoverlap
        | literal t =>
          have hst : s = t := String.toList_inj.1 ((hliteral s rfl).symm.trans (hliteral' t rfl))
          unfold overlap
          rw [hst, beq_self_eq_true, hoverlap]
          rfl

/-- Routes that fit the same path overlap. -/
theorem Route.overlap_of_match? {route route' : Route} {path : List Char} {raw raw' : RawParams}
    (h : route.match? path = some raw) (h' : route'.match? path = some raw') :
    overlap route.pattern route'.pattern = true := by
  obtain ⟨segs, hsegs, hmatch⟩ := Option.bind_eq_some_iff.1 h
  obtain ⟨segs', hsegs', hmatch'⟩ := Option.bind_eq_some_iff.1 h'
  obtain rfl : segs = segs' := Option.some.inj (hsegs.symm.trans hsegs')
  exact overlap_of_match hmatch hmatch'

/-- The routes of a table exclude each other. -/
abbrev Table.Exclusive (t : Table) : Prop := t.Pairwise fun r r' => overlap r.pattern r'.pattern = false

theorem plainTable_patterns (bindings : Bool) :
    ∀ route ∈ plainTable bindings, route.pattern ≠ [] := by
  cases bindings <;> decide

/-- **The routes of a broker exclude each other.** -/
theorem brokerTable_exclusive (bindings : Bool) : (brokerTable bindings).Exclusive := by
  cases bindings <;> decide +kernel

section

variable {t : Table} (ht : t.Exclusive)

include ht

/-- **No path fits two routes** of an exclusive table. -/
theorem Table.Exclusive.countP_le (path : List Char) :
    t.countP (fun r => (r.match? path).isSome) ≤ 1 := by
  induction t with
  | nil => exact Nat.zero_le 1
  | cons r rest ih =>
    obtain ⟨hfirst, hrest⟩ := List.pairwise_cons.1 ht
    rw [List.countP_cons]
    cases hr : r.match? path with
    | none => exact ih hrest
    | some raw =>
      -- where the first route fits, none of the others does
      have hothers : rest.countP (fun r => (r.match? path).isSome) = 0 := by
        rw [List.countP_eq_zero]
        intro r' hr' hsome
        obtain ⟨raw', hraw'⟩ := Option.isSome_iff_exists.1 hsome
        have hoverlap := Route.overlap_of_match? hr hraw'
        rw [hfirst r' hr'] at hoverlap
        cases hoverlap
      rw [hothers]
      exact Nat.le_refl 1

/-- The route that a path fits is found. -/
theorem Table.Exclusive.find?_of_mem {path : List Char} {route : Route} {raw : RawParams}
    (hroute : route ∈ t) (hmatch : route.match? path = some raw) :
    t.find? path = some (route, raw) := by
  induction t with
  | nil => cases hroute
  | cons r rest ih =>
    obtain ⟨hfirst, hrest⟩ := List.pairwise_cons.1 ht
    unfold Table.find?
    rw [List.findSome?_cons]
    rcases List.mem_cons.1 hroute with rfl | hmem
    · rw [hmatch]
      rfl
    · cases hr : r.match? path with
      | none => exact ih hrest hmem
      | some raw' =>
        have hoverlap := Route.overlap_of_match? hr hmatch
        rw [hfirst route hmem] at hoverlap
        cases hoverlap

end

/-! ## A segment in front -/

/-- A text without the separator is the first part of what it stands in front of. -/
theorem splitAt_append {c : Char} {p : List Char} (hp : c ∉ p) (rest : List Char) :
    splitAt c (p ++ c :: rest) = p :: splitAt c rest := by
  induction p with
  | nil =>
    rw [List.nil_append, splitAt, if_pos rfl]
  | cons x p ih =>
    have hx : x ≠ c := fun h => hp (h ▸ List.mem_cons_self)
    have hrest : c ∉ p := fun h => hp (List.mem_cons_of_mem _ h)
    rw [List.cons_append, splitAt, if_neg hx, ih hrest]

section

variable {p : List Char} (hp : '/' ∉ p) {path : List Char}

include hp

theorem segments_append {segs : List (List Char)} (h : segments path = some segs) :
    segments ('/' :: p ++ path) = some (p :: segs) := by
  unfold segments at h
  split at h
  · cases h
    exact congrArg some (splitAt_append hp _)
  · cases h

/-- **A path that fits a plain route** fits the one under a platform with a segment in front, and no
other one. -/
theorem find?_underPlatform {bindings : Bool} {route : Route} {raw : RawParams}
    (h : (plainTable bindings).find? path = some (route, raw)) :
    (brokerTable bindings).find? path = some (route, raw) ∧
      (brokerTable bindings).find? ('/' :: p ++ path) =
        some (route.underPlatform, (.platformId, p) :: raw) := by
  obtain ⟨hroute, segs, hsegs, hmatch⟩ := match_of_find? h
  have hexclusive := brokerTable_exclusive bindings
  have hplain : route.match? path = some raw := by
    unfold Route.match?
    rw [hsegs]
    exact hmatch
  have hunder : route.underPlatform.match? ('/' :: p ++ path) = some ((.platformId, p) :: raw) := by
    unfold Route.match?
    rw [segments_append hp hsegs]
    show matchSegments (.param .platformId :: route.pattern) (p :: segs) = _
    rw [matchSegments, if_neg fun hnil => plainTable_patterns _ route hroute hnil.2, hmatch]
    rfl
  exact ⟨hexclusive.find?_of_mem (List.mem_append_left _ hroute) hplain,
    hexclusive.find?_of_mem (List.mem_append_right _ (List.mem_map_of_mem hroute)) hunder⟩

end

/-- The request with a segment in front of its path, everything else as it is. -/
structure Request.Under (p : List Char) (r r' : Request) : Prop where
  method : r'.method = r.method
  headers : r'.headers = r.headers
  body : r'.body = r.body
  query : r'.query = r.query
  path : r'.path = '/' :: p ++ r.path

theorem cut_append {f : Char → Bool} {s : List Char} (hs : ∀ c ∈ s, f c = false) (rest : List Char) :
    cut f (s ++ rest) = (s ++ (cut f rest).1, (cut f rest).2) := by
  have hpass : ∀ c ∈ s, (!f c) = true := by
    intro c hc
    rw [hs c hc]
    rfl
  unfold cut
  rw [List.dropWhile_append_of_pos hpass, List.takeWhile_append_of_pos hpass]
  cases rest.dropWhile (!f ·) <;> rfl

/-- A target that begins with its path has a segment in front of it when it is put there. -/
theorem Request.under_of_target {p : List Char} (hp : ∀ c ∈ p, c ≠ '?' ∧ c ≠ '#') {r : Request}
    {rest : List Char} (htarget : r.target.toList = '/' :: rest) :
    r.Under p { r with target := String.ofList ('/' :: p ++ r.target.toList) } := by
  have hcut : ∀ (c : Char) (s : List Char), c = '?' ∨ c = '#' →
      cut (· == c) ('/' :: p ++ s) = ('/' :: p ++ (cut (· == c) s).1, (cut (· == c) s).2) := by
    intro c s hc
    refine cut_append (fun x hx => ?_) s
    rcases List.mem_cons.1 hx with rfl | hx
    · rcases hc with rfl | rfl <;> decide
    · rcases hc with rfl | rfl
      · exact beq_false_of_ne (hp x hx).1
      · exact beq_false_of_ne (hp x hx).2
  have hresource : (Request.resource { r with target := String.ofList ('/' :: p ++ r.target.toList) }) =
      '/' :: p ++ r.resource := by
    unfold Request.resource
    simp only [String.toList_ofList]
    rw [htarget]
    show (cut (· == '#') ('/' :: p ++ '/' :: rest)).1 = '/' :: p ++ (cut (· == '#') ('/' :: rest)).1
    rw [hcut _ _ (.inr rfl)]
  refine ⟨rfl, rfl, rfl, ?_, ?_⟩
  · unfold Request.query
    rw [hresource, hcut _ _ (.inl rfl)]
  · unfold Request.path
    rw [hresource, hcut _ _ (.inl rfl)]

/-! ## The reply -/

/-- The reply to a request that came from the platform. -/
def Reply.ofPlatform (id : String) (reply : Reply) : Reply :=
  { reply with report := reply.report.map (Report.ofPlatform id) }

theorem Request.Under.readAlike {p : List Char} {r r' : Request} (h : r.Under p r') :
    ReadAlike r' r where
  query := h.query
  body := h.body
  headerText? name := by
    unfold Request.headerText? Request.header?
    rw [h.headers]

/-- A call of a platform is performed as by a broker whose services are told the platform. -/
theorem perform_sentBy (id : String) (b : Broker) (c : Call) :
    perform b (sentBy id c) = (perform (b.told id) c).ofPlatform id := by
  unfold perform
  rw [b.perform?_sentBy]
  cases (b.told id).perform? c <;> rfl

section

variable (apiVersion : String) {b : Broker} {r r' : Request} {p : List Char} {id : String}
  {route : Route} {raw : RawParams} (hid : percentText? p = some id) (hr' : r.Under p r')

include hid hr'

theorem Endpoint.handle_under (e : Endpoint) (raw : RawParams) :
    e.handle b ((.platformId, p) :: raw) r' = (e.handle (b.told id) raw r).ofPlatform id := by
  unfold Endpoint.handle
  cases e with
  | catalog => rfl
  | operation op =>
    simp only
    rw [hr'.readAlike.call, call_platform hid]
    cases call op raw r with
    | error rejection => rfl
    | ok c => exact perform_sentBy id b c

/-- **The reply to a request with a segment in front of its path** is that to the request, from a
broker whose services are told the platform. -/
theorem app_under (hroute : (plainTable b.bindings.isSome).find? r.path = some (route, raw))
    (hp : '/' ∉ p) : app apiVersion b r' = (app apiVersion (b.told id) r).ofPlatform id := by
  obtain ⟨hplain, hunder⟩ := find?_underPlatform hp hroute
  have hbindings : (b.told id).bindings.isSome = b.bindings.isSome := Option.isSome_map
  have hguard : ∀ inner inner' : Reply, inner' = inner.ofPlatform id →
      (versionGate apiVersion).guard r' inner' =
        ((versionGate apiVersion).guard r inner).ofPlatform id := by
    rintro inner _ rfl
    unfold Gate.guard
    rw [hr'.readAlike.versionGate]
    cases versionGate apiVersion r <;> rfl
  have hhead : ∀ reply : Reply, (reply.ofPlatform id).headOnly r' =
      (reply.headOnly r).ofPlatform id := by
    intro reply
    unfold Reply.headOnly
    rw [hr'.method]
    split <;> rfl
  have hhandle : (brokerTable b.bindings.isSome).handle (versionGate apiVersion) b r' =
      ((brokerTable (b.told id).bindings.isSome).handle (versionGate apiVersion)
        (b.told id) r).ofPlatform id := by
    unfold Table.handle
    rw [hbindings, hr'.path, hr'.method, hunder, hplain]
    simp only
    -- the same methods are mounted on the route under a platform
    have hmethods : route.underPlatform.endpoint? = route.endpoint? := rfl
    rw [hmethods]
    cases (Method.ofName? r.method).bind route.endpoint? with
    | none =>
      rw [hguard ⟨notAllowed, none⟩ ⟨notAllowed, none⟩ rfl]
      rfl
    | some e => simp only [hguard _ _ (e.handle_under hid hr' raw), hhead]
  have hecho : r'.header? requestIdentityHeader = r.header? requestIdentityHeader := by
    unfold Request.header?
    rw [hr'.headers]
  unfold app echoIdentity
  rw [hecho, hhandle]
  cases r.header? requestIdentityHeader <;> rfl

end

theorem plainTable_params (bindings : Bool) :
    ∀ route ∈ plainTable bindings, .platformId ∉ patternParams route.pattern := by
  cases bindings <;> decide

/-- What is sent to a plain path names no platform. -/
theorem platform_of_plain {apiVersion : String} {b : Broker} {r : Request} {route : Route}
    {raw : RawParams} (hroute : (plainTable b.bindings.isSome).find? r.path = some (route, raw))
    {report : Report} (hreport : (app apiVersion b r).report = some report) :
    ∀ q ∈ report.requests, q.envelope.platformInstanceId = none := by
  obtain ⟨hmem, hparams⟩ := params_of_find? hroute
  obtain ⟨route', raw', ps, env, c, hroute', hps, henv, -, -, hgiven⟩ := envelope_of_report hreport
  have hplain := (find?_underPlatform (p := []) (by decide) hroute).1
  obtain ⟨rfl, rfl⟩ := Prod.mk.inj (Option.some.inj (hplain.symm.trans hroute'))
  have hunnamed : raw.lookup .platformId = none := by
    rw [List.lookup_eq_none_iff]
    intro entry hentry
    refine bne_iff_ne.2 fun hname => ?_
    have hin : entry.1 ∈ raw.map (·.1) := List.mem_map_of_mem hentry
    rw [hparams, ← hname] at hin
    exact plainTable_params _ route hmem hin
  have hnone : ps.get? .platformId = none := by
    have htext := lookup_of_decodeParams hps .platformId
    rw [hunnamed] at htext
    exact Option.map_eq_none_iff.1 htext.symm
  intro q hq
  rw [hgiven q hq, (envelope_eq_ok henv).1, hnone]

end Http

/-! ## The law -/

/-- Two reports differ in the platform of the requests in them and in nothing else: answer, hooks that
ran and failures of hooks are the same, and so are the requests, which name the platform in one report
and none in the other. -/
structure Report.SameButPlatform (id : String) (report report' : Report) : Prop where
  operation : report'.operation = report.operation
  answer : report'.answer = report.answer
  notes : report'.notes = report.notes
  counted : report'.counted = report.counted
  flowFailures : report'.flowFailures = report.flowFailures
  requests : report'.requests = report.requests.map (sentBy id)
  unnamed : ∀ q ∈ report.requests, q.envelope.platformInstanceId = none

/-- **A segment in front of the path names the platform**, and does nothing else. A request to the path
of a plain route, with a segment in front that is a text, gets the reply that a broker gives to the
request alone whose services are told this text for a platform. Where the services do not look at the
platform, response and report are the same but for the platform. And no path fits two routes. -/
theorem platform_segment_names_the_platform (apiVersion : String) (b : Broker)
    {r r' : Http.Request} {p : List Char} {id : String} {route : Http.Route} {raw : Http.RawParams}
    (hroute : (Http.plainTable b.bindings.isSome).find? r.path = some (route, raw)) (hp : '/' ∉ p)
    (hid : Http.percentText? p = some id) (hr' : r.Under p r') :
    Http.app apiVersion b r' = (Http.app apiVersion (b.told id) r).ofPlatform id ∧
      (b.IgnoresPlatform →
        (Http.app apiVersion b r').response = (Http.app apiVersion b r).response ∧
        Option.Rel (Report.SameButPlatform id) (Http.app apiVersion b r).report
          (Http.app apiVersion b r').report) ∧
      ∀ path, (Http.brokerTable b.bindings.isSome).countP
        (fun route => (route.match? path).isSome) ≤ 1 := by
  have hreply := Http.app_under apiVersion hid hr' hroute hp
  refine ⟨hreply, fun hignores => ?_, (Http.brokerTable_exclusive _).countP_le⟩
  rw [hreply, hignores id]
  refine ⟨rfl, ?_⟩
  show Option.Rel _ _ ((Http.app apiVersion b r).report.map (Report.ofPlatform id))
  cases hreport : (Http.app apiVersion b r).report with
  | none => exact .none
  | some report =>
    refine .some {
      operation := rfl
      answer := rfl
      notes := report.notes_mapRequests _
      counted := rfl
      flowFailures := rfl
      requests := report.requests_mapRequests _
      unnamed := Http.platform_of_plain hroute hreport }

namespace Sample

/-- The request under a platform, which is written in a segment of its own. -/
def underPlatform (id : String) (r : Http.Request) : Http.Request :=
  { r with target := String.ofList ('/' :: Http.percentEncode id ++ r.target.toList) }

/-- A platform can be named `v2`, and a platform with a slash in its name can be written. The instance
is deleted as without it, with the same response, and the service is told where the request comes
from. -/
theorem v2_names_a_platform :
    let request := deletionFor "cf e30="
    let report := willing.deleteInstance (deletionOf (some readable))
    ((underPlatform "v2" request).target =
        "/v2/v2/service_instances/i?service_id=sd-1&plan_id=plan-1" ∧
      (Http.app "*" willing request).report = some report ∧
      (Http.app "*" willing (underPlatform "v2" request)).report = some (report.ofPlatform "v2") ∧
      (report.ofPlatform "v2").requests.map (·.envelope.platformInstanceId) = [some "v2"] ∧
      (Http.app "*" willing (underPlatform "v2" request)).response =
        (Http.app "*" willing request).response) ∧
    (underPlatform "é/1" request).target =
        "/%C3%A9%2F1/v2/service_instances/i?service_id=sd-1&plan_id=plan-1" ∧
      (Http.app "*" willing (underPlatform "é/1" request)).report =
        some (report.ofPlatform "é/1") ∧
      (report.ofPlatform "é/1").requests.map (·.envelope.platformInstanceId) = [some "é/1"] ∧
      (Http.app "*" willing (underPlatform "é/1" request)).response =
        (Http.app "*" willing request).response := by
  intro request report
  have hroute : (Http.plainTable willing.bindings.isSome).find? request.path =
      some (⟨Http.instancePattern,
        [(.get, .operation .getInstance), (.put, .operation .createInstance),
          (.patch, .operation .updateInstance), (.delete, .operation .deleteInstance)]⟩,
        [(.instanceId, ['i'])]) := by
    show (Http.plainTable willing.bindings.isSome).find? (deletionFor "").path = _
    decide +kernel
  have htarget : request.target.toList =
      '/' :: "v2/service_instances/i?service_id=sd-1&plan_id=plan-1".toList := by decide
  have hignores : willing.IgnoresPlatform :=
    Broker.ignoresPlatform_scripted willing.catalog willing.flows {} none
  -- any text can be written in front of the path, and is read back from there
  have hnamed : ∀ id,
      (Http.app "*" willing (underPlatform id request)).report = some (report.ofPlatform id) ∧
      (report.ofPlatform id).requests.map (·.envelope.platformInstanceId) = [some id] ∧
      (Http.app "*" willing (underPlatform id request)).response =
        (Http.app "*" willing request).response := by
    intro id
    have hslash : '/' ∉ Http.percentEncode id := fun h =>
      Http.ne_of_mem_percentEncode h (by decide) (by decide) rfl
    have hend : ∀ c ∈ Http.percentEncode id, c ≠ '?' ∧ c ≠ '#' := fun c hc =>
      ⟨Http.ne_of_mem_percentEncode hc (by decide) (by decide),
        Http.ne_of_mem_percentEncode hc (by decide) (by decide)⟩
    have hunder : request.Under (Http.percentEncode id) (underPlatform id request) :=
      Http.Request.under_of_target hend htarget
    obtain ⟨hreply, hsame, -⟩ := platform_segment_names_the_platform "*" willing hroute hslash
      (Http.percentText?_percentEncode id) hunder
    have htold : (report.ofPlatform id).requests.map (·.envelope.platformInstanceId) =
        [some id] := by
      unfold Report.ofPlatform
      rw [Report.requests_mapRequests]
      rfl
    refine ⟨?_, htold, (hsame hignores).1⟩
    rw [hreply, hignores id]
    exact congrArg (Option.map (Report.ofPlatform id)) report_readable
  exact ⟨⟨by decide, report_readable, hnamed "v2"⟩, by decide, hnamed "é/1"⟩

end Sample

end Brokerage
