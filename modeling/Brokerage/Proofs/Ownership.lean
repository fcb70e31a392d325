import Brokerage.Http.Scrape

/-!
# Who owns the recorder

Servers of one process are created and started in any order, and any of them again and again. The one
that is started first installs the recorder and shows it from then on; the others are started all the
same and show nothing.

* `Exporter.Reliable`: what is relied on of an exporter.
* `HubCall.started`: the servers that calls start, in order.
* `Hub.start?_eq`: **a start never fails.** The first one installs a recorder for its server, a later
  one describes the families to the recorder that is there.
* `Hub.Standing`: how a process stands after servers were started. `Standing.after` and
  `Standing.afterAll` carry it over one call and over calls in turn.
* `first_started_owns_the_recorder`: **the server that is started first owns the recorder**, it alone
  and for good, and is the one whose metrics can be fetched.
-/

namespace Brokerage.Metrics

/-! ## Exporters -/

theorem occursIn_iff {part s : List Char} : occursIn part s = true ↔ part <:+: s := by
  induction s with
  | nil => rw [occursIn, List.isEmpty_iff, List.infix_nil]
  | cons c s ih =>
    rw [occursIn, Bool.or_eq_true, ih, List.isPrefixOf_iff_prefix, List.infix_cons_iff]

/-- **What is relied on of an exporter**: it takes any buckets but none, it installs the first recorder
of a process, and it refuses a second one by saying that there is one. -/
structure Exporter.Reliable (e : Exporter) : Prop where
  setBuckets : ∀ suffix bounds, bounds ≠ [] → e.setBuckets suffix bounds = .ok ()
  first : e.install false = .ok ()
  second : ∃ reason, e.install true = .error reason ∧ alreadyInstalled.toList <:+: reason.toList

theorem Exporter.reliable_standard : Exporter.standard.Reliable where
  setBuckets _ _ h := if_neg h
  first := rfl
  second := ⟨_, rfl, occursIn_iff.1 (by decide +kernel)⟩

/-! ## Calls -/

namespace HubCall

/-- The server that a call starts where there are `n` servers. -/
def starts? (n : Nat) : HubCall → Option Nat
  | start server => if server < n then some server else none
  | _ => none

/-- The number of servers that a call adds. -/
def adds : HubCall → Nat
  | create _ => 1
  | _ => 0

/-- **The servers that calls start**, in order, where there are `n` servers before them. -/
def started : (n : Nat) → List HubCall → List Nat
  | _, [] => []
  | n, c :: calls => (c.starts? n).toList ++ started (n + c.adds) calls

/-- Further calls start servers behind those. -/
theorem started_prefix (n : Nat) (calls more : List HubCall) :
    started n calls <+: started n (calls ++ more) := by
  induction calls generalizing n with
  | nil => exact List.nil_prefix
  | cons c calls ih => exact List.prefix_append_right_inj _ |>.2 (ih (n + c.adds))

end HubCall

namespace Hub

variable {e : Exporter} {h : Hub}

/-- A server owns the recorder. -/
def owns (h : Hub) (server : Nat) : Bool := h.servers[server]?.any (·.hasHandle)

/-- The hub after calls in turn. -/
def afterAll (e : Exporter) (h : Hub) (calls : List HubCall) : Hub := calls.foldl (after e) h

/-- **A start never fails.** The first one installs a recorder, which its server owns; with a recorder
it describes the families to that one. -/
theorem start?_eq (he : e.Reliable) {server : Nat} (hserver : server < h.servers.length) :
    h.start? e server = some (.ok (),
      match h.recorder with
      | none => h.own server
      | some r => { h with recorder := some r.describe }) := by
  have hbuckets := he.setBuckets durationSuffix durationBounds (by decide)
  unfold start?
  rw [if_pos hserver, install, hbuckets]
  cases hrecorder : h.recorder with
  | none =>
    have hnone : h.describe.recorder.isSome = false := by rw [describe, hrecorder]; rfl
    simp only [hnone, he.first]
    rfl
  | some r =>
    obtain ⟨reason, hreason, hinfix⟩ := he.second
    have hsome : h.describe.recorder.isSome = true := by rw [describe, hrecorder]; rfl
    have htells : tellsInstalled reason = true := occursIn_iff.2 hinfix
    simp only [hsome, hreason, htells, if_true]
    rw [describe, hrecorder]
    rfl

theorem after_start (he : e.Reliable) {server : Nat} (hserver : server < h.servers.length) :
    h.after e (.start server) =
      match h.recorder with
      | none => h.own server
      | some r => { h with recorder := some r.describe } := by
  have hcall : h.call? e (.start server) = (h.start? e server).map _ := rfl
  unfold after
  rw [hcall, start?_eq he hserver]
  rfl

/-- A server that is not there is not started. -/
theorem after_start_of_le {server : Nat} (hserver : h.servers.length ≤ server) :
    h.after e (.start server) = h := by
  have hcall : h.call? e (.start server) = (h.start? e server).map _ := rfl
  unfold after
  rw [hcall, start?, if_neg (Nat.not_lt.2 hserver)]
  rfl

/-- To show metrics changes nothing. -/
theorem after_render (server : Nat) : h.after e (.render server) = h := by
  have hcall : h.call? e (.render server) =
      if server < h.servers.length then some (.rendered (h.render? e server), h) else none := rfl
  unfold after
  rw [hcall]
  split <;> rename_i heq <;> split at heq <;> cases heq <;> rfl

/-! ## Owners -/

theorem owns_create (address : Net.SocketAddress) (i : Nat) :
    (h.create address).owns i = h.owns i := by
  unfold owns create
  obtain hi | hi := Nat.lt_or_ge i h.servers.length
  · rw [List.getElem?_append_left hi]
  · -- the new server owns nothing yet
    rw [List.getElem?_append_right hi, List.getElem?_eq_none hi]
    cases i - h.servers.length <;> rfl

theorem owns_own {server : Nat} (hserver : server < h.servers.length) (i : Nat) :
    (h.own server).owns i = (decide (i = server) || h.owns i) := by
  unfold owns own
  rw [List.getElem?_modify]
  by_cases hi : server = i
  · subst hi
    rw [List.getElem?_eq_getElem hserver]
    simp
  · simp only [if_neg hi, decide_eq_false (Ne.symm hi), Bool.false_or, Option.map_eq_map,
      Option.map_id']

/-- The number of servers after a call. -/
theorem length_after (he : e.Reliable) (c : HubCall) :
    (h.after e c).servers.length = h.servers.length + c.adds := by
  cases c with
  | create address => exact List.length_append
  | start server =>
    obtain hserver | hserver := Nat.lt_or_ge server h.servers.length
    · rw [after_start he hserver]
      cases h.recorder with
      | none => exact List.length_modify ..
      | some r => rfl
    · rw [after_start_of_le hserver]
      rfl
  | render server =>
    rw [after_render]
    rfl
  | record report => rfl

/-- **How a process stands** in which servers were started, in that order: the first of them owns the
recorder, which is there if there was one, and knows the families if there was a second. -/
structure Standing (h : Hub) (past : List Nat) : Prop where
  owns : ∀ i, h.owns i = true ↔ past.head? = some i
  recorder : h.recorder.isSome = true ↔ past ≠ []
  described : ∀ r, h.recorder = some r → ∀ f, f ∈ r.described ↔ 1 < past.length

namespace Standing

variable {past : List Nat}

theorem empty : Standing {} [] where
  owns _ := ⟨nofun, nofun⟩
  recorder := ⟨nofun, fun h => absurd rfl h⟩
  described := nofun

theorem create (hs : Standing h past) (address : Net.SocketAddress) :
    Standing (h.create address) past where
  owns i := by rw [owns_create]; exact hs.owns i
  recorder := hs.recorder
  described := hs.described

theorem record (hs : Standing h past) (report : Report) : Standing (h.record report) past where
  owns := hs.owns
  recorder := by
    rw [Hub.record, Option.isSome_map]
    exact hs.recorder
  described r hr f := by
    obtain ⟨r', hr', rfl⟩ := Option.map_eq_some_iff.1 hr
    exact hs.described r' hr' f

/-- The first start makes its server the owner. -/
theorem first (hs : Standing h past) (hnone : h.recorder = none) {server : Nat}
    (hserver : server < h.servers.length) : Standing (h.own server) (past ++ [server]) := by
  obtain rfl : past = [] := Decidable.byContradiction fun hne => by
    have hsome := hs.recorder.2 hne
    rw [hnone] at hsome
    cases hsome
  refine ⟨fun i => ?_, ⟨fun _ => List.cons_ne_nil _ _, fun _ => rfl⟩, fun r hr f => ?_⟩
  · have hnobody : h.owns i = false := Bool.eq_false_iff.2 fun hi => by
      cases (hs.owns i).1 hi
    rw [owns_own hserver, hnobody, Bool.or_false, decide_eq_true_iff]
    exact ⟨fun hi => congrArg some hi.symm, fun hi => (Option.some.inj hi).symm⟩
  · cases hr
    exact ⟨nofun, nofun⟩

/-- A later start only describes the families. -/
theorem again (hs : Standing h past) {r : Recorder} (hr : h.recorder = some r) (server : Nat) :
    Standing { h with recorder := some r.describe } (past ++ [server]) := by
  have hpast : past ≠ [] := hs.recorder.1 (by rw [hr]; rfl)
  have hhead : (past ++ [server]).head? = past.head? := by
    rw [List.head?_append, List.head?_eq_some_head hpast, Option.some_or]
  refine ⟨fun i => ?_, ⟨fun _ => by simp, fun _ => rfl⟩, fun r' hr' f => ?_⟩
  · rw [hhead]
    exact hs.owns i
  · cases hr'
    have hall : f ∈ Family.all := by cases f <;> decide
    have hmore : 1 < (past ++ [server]).length := by
      rw [List.length_append]
      exact Nat.succ_lt_succ (List.length_pos_iff.2 hpast)
    exact ⟨fun _ => hmore, fun _ => List.mem_append_right _ hall⟩

/-- **A call starts at most one server** and leaves everything else as it stood. -/
theorem after (he : e.Reliable) (hs : Standing h past) (c : HubCall) :
    Standing (h.after e c) (past ++ (c.starts? h.servers.length).toList) := by
  cases c with
  | create address =>
    show Standing _ (past ++ [])
    rw [List.append_nil]
    exact hs.create address
  | start server =>
    obtain hserver | hserver := Nat.lt_or_ge server h.servers.length
    · rw [HubCall.starts?, if_pos hserver, Option.toList_some, after_start he hserver]
      cases hr : h.recorder with
      | none => exact hs.first hr hserver
      | some r => exact hs.again hr server
    · rw [HubCall.starts?, if_neg (Nat.not_lt.2 hserver), Option.toList_none, List.append_nil,
        after_start_of_le hserver]
      exact hs
  | render server =>
    show Standing _ (past ++ [])
    rw [List.append_nil, after_render]
    exact hs
  | record report =>
    show Standing _ (past ++ [])
    rw [List.append_nil]
    exact hs.record report

/-- **Calls in turn** start their servers behind those that were started. -/
theorem afterAll (he : e.Reliable) (hs : Standing h past) (calls : List HubCall) :
    Standing (h.afterAll e calls) (past ++ HubCall.started h.servers.length calls) := by
  induction calls generalizing h past with
  | nil =>
    rw [HubCall.started, List.append_nil]
    exact hs
  | cons c calls ih =>
    have hstep := ih (hs.after he c)
    rw [length_after he c, List.append_assoc] at hstep
    exact hstep

end Standing

/-- How a process stands after calls. -/
theorem standing_afterAll (he : e.Reliable) (calls : List HubCall) :
    Standing (Hub.afterAll e {} calls) (HubCall.started 0 calls) := by
  have hstanding := Standing.empty.afterAll he calls
  rwa [List.nil_append] at hstanding

/-- What the owner shows is the text of the recorder; the others show nothing. -/
theorem render?_eq (e : Exporter) (h : Hub) (server : Nat) :
    h.render? e server = if h.owns server then h.recorder.map e.render else none := by
  unfold render? owns
  cases h.servers[server]? <;> rfl

end Hub

/-! ## The law -/

/-- **The server that is started first owns the recorder.** After any calls, every start of a server
that is there succeeds; a server owns the recorder if it is the one that was started first, and then it
does so after any further calls; and to fetch its metrics gives the text of the recorder, while the
other servers, started or not, answer that they have none. -/
theorem first_started_owns_the_recorder {e : Exporter} (he : e.Reliable) (calls : List HubCall) :
    (∀ server < (Hub.afterAll e {} calls).servers.length,
      ∃ hub, (Hub.afterAll e {} calls).call? e (.start server) = some (.started (.ok ()), hub)) ∧
    (∀ server, (Hub.afterAll e {} calls).owns server = true ↔
      (HubCall.started 0 calls).head? = some server) ∧
    (∀ server more, (Hub.afterAll e {} calls).owns server = true →
      (Hub.afterAll e {} (calls ++ more)).owns server = true) ∧
    ∀ server (r : Http.Request), r.path = Http.metricsPath.toList → r.method = "GET" →
      if (HubCall.started 0 calls).head? = some server then
        ∃ recorder, (Hub.afterAll e {} calls).recorder = some recorder ∧
          Http.scrape ((Hub.afterAll e {} calls).render? e server) r = .text 200 (e.render recorder)
      else Http.scrape ((Hub.afterAll e {} calls).render? e server) r =
        .text 503 "Metrics not initialized" := by
  have hstanding := Hub.standing_afterAll he calls
  refine ⟨fun server hserver => ?_, hstanding.owns, fun server more howns => ?_,
    fun server r hpath hmethod => ?_⟩
  · have hcall : (Hub.afterAll e {} calls).call? e (.start server) =
        ((Hub.afterAll e {} calls).start? e server).map _ := rfl
    rw [hcall, Hub.start?_eq he hserver]
    exact ⟨_, rfl⟩
  · have hfirst := (hstanding.owns server).1 howns
    obtain ⟨later, hlater⟩ := HubCall.started_prefix 0 calls more
    refine ((Hub.standing_afterAll he (calls ++ more)).owns server).2 ?_
    rw [← hlater, List.head?_append, hfirst, Option.some_or]
  · have hscrape : ∀ rendered, Http.scrape rendered r = Http.metricsResponse rendered := by
      intro rendered
      unfold Http.scrape
      rw [if_pos hpath, if_pos hmethod]
    rw [hscrape, Hub.render?_eq]
    split
    · rename_i hfirst
      have howns := (hstanding.owns server).2 hfirst
      have hsome := hstanding.recorder.2 fun hnil => by rw [hnil] at hfirst; cases hfirst
      obtain ⟨recorder, hrecorder⟩ := Option.isSome_iff_exists.1 hsome
      refine ⟨recorder, hrecorder, ?_⟩
      rw [if_pos howns, hrecorder]
      rfl
    · rename_i hfirst
      rw [if_neg fun howns => hfirst ((hstanding.owns server).1 howns)]
      rfl

end Brokerage.Metrics

namespace Brokerage.Sample

open Metrics (Exporter Hub HubCall)

/-- Two servers are created, the second is started before the first, and a third one joins them. -/
def threeServers : List HubCall :=
  [.create (.v4 ⟨127, 0, 0, 1⟩ 9090), .create (.v4 ⟨127, 0, 0, 1⟩ 9091), .start 1, .start 0,
    .render 0, .create (.v4 ⟨127, 0, 0, 1⟩ 9092), .start 2, .start 1]

/-- What fetches metrics. -/
def fetchMetrics : Http.Request := { method := "GET", target := Http.metricsPath }

/-- The second server owns the recorder, and the first, though it was started, shows nothing. -/
theorem secondServer_owns : Exporter.standard.Reliable ∧
    (Hub.afterAll .standard {} threeServers).owns 1 = true ∧
    Http.scrape ((Hub.afterAll .standard {} threeServers).render? .standard 0) fetchMetrics =
      .text 503 "Metrics not initialized" :=
  have hlaw := Metrics.first_started_owns_the_recorder Metrics.Exporter.reliable_standard threeServers
  ⟨Metrics.Exporter.reliable_standard, (hlaw.2.1 1).2 rfl, hlaw.2.2.2 0 fetchMetrics rfl rfl⟩

end Brokerage.Sample
