import Brokerage.Proofs.Transport

/-!
# What a request is read for

A broker reads a request for its method, its path, its query, its body and the texts of its headers,
and echoes one header as it came. Requests that agree on these are dealt with alike, whatever else is in
them.

* `Http.ReadAlike`: two requests agree on what a call is made of, besides the path.
* `ReadAlike.call`, `ReadAlike.versionGate`: **they make the same calls** and stand before the same gate.
* `Http.SeenAlike`: they agree on method, path and echo too. `SeenAlike.app`: **they get the same reply.**
* `Http.Request.without`: a request without the headers of a name.
* `seenAlike_without`: **a header that is no text might as well not be there**, unless it is echoed.
-/

namespace Brokerage.Http

/-- Two requests read alike: query, body and the texts of the headers are the same. -/
structure ReadAlike (r' r : Request) : Prop where
  query : r'.query = r.query
  body : r'.body = r.body
  headerText? : ∀ name, r'.headerText? name = r.headerText? name

namespace ReadAlike

variable {r' r : Request} (h : ReadAlike r' r)

include h

theorem queryAs (α : Type) [Wire.Message α] : Http.queryAs α r' = Http.queryAs α r := by
  unfold Http.queryAs
  rw [h.query]

theorem bodyAs (α : Type) [Wire.Message α] : Http.bodyAs α r' = Http.bodyAs α r := by
  unfold Http.bodyAs saysJson
  rw [h.headerText?, h.body]

theorem asyncFlag (op : Operation) : Http.asyncFlag op r' = Http.asyncFlag op r := by
  rw [asyncFlag_eq, asyncFlag_eq]
  unfold acceptsIncomplete
  rw [h.queryAs]

theorem originatingIdentity : Http.originatingIdentity r' = Http.originatingIdentity r := by
  unfold Http.originatingIdentity
  rw [h.headerText?]

theorem envelope (ps : Params) : Http.envelope ps r' = Http.envelope ps r := by
  unfold Http.envelope
  rw [h.originatingIdentity, h.headerText?, h.headerText?]

/-- **Requests that read alike make the same calls.** -/
theorem call (op : Operation) (raw : RawParams) : Http.call op raw r' = Http.call op raw r := by
  unfold Http.call
  simp only [h.asyncFlag, h.envelope, h.queryAs, h.bodyAs]

theorem versionGate (apiVersion : String) :
    Http.versionGate apiVersion r' = Http.versionGate apiVersion r := by
  unfold Http.versionGate
  rw [h.headerText?]

end ReadAlike

/-- Two requests are seen alike: they read alike, have the same method and path, and the same value to
echo. -/
structure SeenAlike (r' r : Request) : Prop extends ReadAlike r' r where
  method : r'.method = r.method
  path : r'.path = r.path
  echoed : r'.header? requestIdentityHeader = r.header? requestIdentityHeader

/-- **Requests that are seen alike get the same reply.** -/
theorem SeenAlike.app {r' r : Request} (h : SeenAlike r' r) (apiVersion : String) (b : Broker) :
    Http.app apiVersion b r' = Http.app apiVersion b r := by
  have hcall := h.toReadAlike.call
  have hgate := h.toReadAlike.versionGate apiVersion
  have hendpoint : ∀ (e : Endpoint) (raw : RawParams), e.handle b raw r' = e.handle b raw r := by
    intro e raw
    cases e with
    | catalog => rfl
    | operation op => simp only [Endpoint.handle, hcall]
  have hhandle : (brokerTable b.bindings.isSome).handle (Http.versionGate apiVersion) b r' =
      (brokerTable b.bindings.isSome).handle (Http.versionGate apiVersion) b r := by
    unfold Table.handle Gate.guard Reply.headOnly
    simp only [h.path, h.method, hgate, hendpoint]
  unfold Http.app echoIdentity
  rw [h.echoed, hhandle]

/-! ## Headers that are left out -/

/-- The request without the headers of a name. -/
def Request.without (r : Request) (name : String) : Request :=
  { r with headers := r.headers.filter fun h => !sameName h.1 name }

variable {r : Request} {name other : String}

theorem sameName_eq_true : sameName name other = true ↔ lower name = lower other := beq_iff_eq

theorem sameName_comm (name other : String) : sameName name other = sameName other name :=
  Bool.beq_comm ..

/-- A header of one name is none of another. -/
theorem sameName_and_not (h : sameName other name = false) (s : String) :
    (sameName s other && !sameName s name) = sameName s other := by
  cases hother : sameName s other with
  | false => rfl
  | true =>
    have hne : sameName s name = false := by
      unfold sameName
      rw [sameName_eq_true.1 hother]
      exact h
    rw [hne]
    rfl

/-- Names that are the same but for case name the same headers. -/
theorem header?_of_sameName (h : sameName other name = true) : r.header? other = r.header? name := by
  have hnames : ∀ n, sameName n other = sameName n name := by
    intro n
    unfold sameName
    rw [sameName_eq_true.1 h]
  unfold Request.header? Http.header?
  simp only [hnames]

/-- The headers of a name are gone. -/
theorem header?_without_of_sameName (h : sameName other name = true) :
    (r.without name).header? other = none := by
  rw [header?_of_sameName h]
  unfold Request.header? Http.header? Request.without
  rw [Option.map_eq_none_iff, List.find?_eq_none]
  intro header hheader
  simpa using (List.mem_filter.1 hheader).2

/-- All other headers are still there. -/
theorem header?_without_of_ne (h : sameName other name = false) :
    (r.without name).header? other = r.header? other := by
  have hkeeps : ∀ header : String × List UInt8,
      (decide (!sameName header.1 name ∧ sameName header.1 other)) = sameName header.1 other := by
    intro header
    rw [Bool.decide_and, Bool.decide_eq_true, Bool.decide_eq_true, Bool.and_comm]
    exact sameName_and_not h header.1
  unfold Request.header? Http.header? Request.without
  simp only [List.find?_filter, hkeeps]

/-- **A header that is no text might as well not be there**, unless it is the one that is echoed. -/
theorem seenAlike_without (hname : sameName requestIdentityHeader name = false)
    (hunread : r.headerText? name = none) : SeenAlike r (r.without name) where
  query := rfl
  body := rfl
  headerText? other := by
    unfold Request.headerText? at hunread ⊢
    cases hother : sameName other name with
    | true =>
      rw [header?_without_of_sameName hother, header?_of_sameName hother, hunread]
      rfl
    | false => rw [header?_without_of_ne hother]
  method := rfl
  path := rfl
  echoed := (header?_without_of_ne hname).symm

end Brokerage.Http
