import Brokerage.Proofs.Resolve
import Brokerage.Proofs.Routing

/-!
# What a path spells

The path of a request spells the platform, the instance and the binding that its operation is about,
each percent-encoded in a segment of its own.

* `Http.Address`: what a path spells, ids as they are written; `Address.segments` is the path.
* `Http.operationPattern`, `brokerTable_patterns`: the pattern that an operation is mounted on, as it is
  or under a platform.
* `address_of_find?`: **a path that fits a route of an operation spells an address**, and its
  parameters are the ids of this address.
* `param?_of_decodeParams`: each parameter is the text of its own segment.
-/

namespace Brokerage

/-- The operation asks after the state of another one. -/
def Operation.polls : Operation → Bool
  | pollInstance | pollBinding => true
  | _ => false

namespace Http

/-! ## Addresses -/

/-- What the path of a request spells, ids as they are written: the instance, perhaps a binding of it,
perhaps under a platform, perhaps the last operation on it. -/
structure Address where
  platform : Option (List Char) := none
  instanceId : List Char
  bindingId : Option (List Char) := none
  polls : Bool := false

namespace Address

/-- The segments behind the instance. -/
def rest (a : Address) : List (List Char) :=
  (match a.bindingId with
    | some id => ["service_bindings".toList, id]
    | none => []) ++ if a.polls then ["last_operation".toList] else []

/-- The segments of the path. -/
def segments (a : Address) : List (List Char) :=
  a.platform.toList ++ "v2".toList :: "service_instances".toList :: a.instanceId :: a.rest

/-- The id of a parameter. -/
def param? (a : Address) : Param → Option (List Char)
  | .platformId => a.platform
  | .instanceId => some a.instanceId
  | .bindingId => a.bindingId
  | .other => none

/-- The parameters of the path, in order. -/
def params (a : Address) : RawParams :=
  a.platform.toList.map (.platformId, ·) ++
    (.instanceId, a.instanceId) :: a.bindingId.toList.map (.bindingId, ·)

theorem lookup_params (a : Address) (p : Param) : a.params.lookup p = a.param? p := by
  obtain ⟨platform, instanceId, bindingId, polls⟩ := a
  cases platform <;> cases bindingId <;> cases p <;> rfl

end Address

/-! ## Patterns -/

/-- The pattern behind an instance. -/
def restPattern (resource : Resource) (polls : Bool) : List Segment :=
  (match resource with
    | .serviceBinding => [.literal "service_bindings", .param .bindingId]
    | .serviceInstance => []) ++ if polls then [pollSegment] else []

/-- The pattern of an operation, without a platform. -/
def operationPattern (op : Operation) : List Segment :=
  instancePattern ++ restPattern op.resource op.polls

/-- The endpoint is mounted on the pattern of its operation. -/
def Fits (pattern : List Segment) : Endpoint → Prop
  | .catalog => True
  | .operation op => pattern = operationPattern op

instance (pattern : List Segment) : ∀ e, Decidable (Fits pattern e)
  | .catalog => inferInstanceAs (Decidable True)
  | .operation _ => inferInstanceAs (Decidable (_ = _))

theorem plainTable_fits (bindings : Bool) :
    ∀ route ∈ plainTable bindings, ∀ entry ∈ route.methods, Fits route.pattern entry.2 := by
  cases bindings <;> decide

/-- **An operation is mounted on its pattern**, as it is or under a platform. -/
theorem brokerTable_patterns {bindings : Bool} {route : Route} {m : Method} {op : Operation}
    (hroute : route ∈ brokerTable bindings) (he : route.endpoint? m = some (.operation op)) :
    route.pattern = operationPattern op ∨
      route.pattern = .param .platformId :: operationPattern op := by
  have hmem := Route.mem_of_endpoint? he
  rcases List.mem_append.1 hroute with h | h
  · exact .inl (plainTable_fits bindings route h _ hmem)
  · obtain ⟨plain, hplain, rfl⟩ := List.mem_map.1 h
    have hfits : plain.pattern = operationPattern op := plainTable_fits bindings plain hplain _ hmem
    exact .inr (congrArg (Segment.param .platformId :: ·) hfits)

/-! ## Segments that fit a pattern -/

section Fitting

variable {pattern : List Segment} {segs : List (List Char)} {raw : RawParams}

theorem matchSegments_nil (h : matchSegments [] segs = some raw) : segs = [] ∧ raw = [] := by
  cases segs with
  | nil => exact ⟨rfl, (Option.some.inj h).symm⟩
  | cons seg segs => cases h

theorem matchSegments_literal {s : String}
    (h : matchSegments (.literal s :: pattern) segs = some raw) :
    ∃ segs', segs = s.toList :: segs' ∧ matchSegments pattern segs' = some raw := by
  cases segs with
  | nil => cases h
  | cons seg segs' =>
    unfold matchSegments at h
    split at h
    · exact ⟨segs', congrArg (· :: segs') ‹_›, h⟩
    · cases h

theorem matchSegments_param {p : Param}
    (h : matchSegments (.param p :: pattern) segs = some raw) :
    ∃ seg segs' raw', segs = seg :: segs' ∧ raw = (p, seg) :: raw' ∧
      matchSegments pattern segs' = some raw' := by
  cases segs with
  | nil => cases h
  | cons seg segs' =>
    unfold matchSegments at h
    split at h
    · cases h
    · obtain ⟨raw', hraw, rfl⟩ := Option.map_eq_some_iff.1 h
      exact ⟨seg, segs', raw', rfl, rfl, hraw⟩

/-- Segments that fit the pattern of an operation are those of an address without a platform. -/
theorem address_of_matchSegments {op : Operation}
    (h : matchSegments (operationPattern op) segs = some raw) :
    ∃ a : Address, segs = a.segments ∧ raw = a.params ∧ a.platform = none ∧ a.polls = op.polls ∧
      (a.bindingId.isSome = true ↔ op.resource = .serviceBinding) := by
  -- every pattern begins with that of an instance
  obtain ⟨segs₁, rfl, h₁⟩ := matchSegments_literal h
  obtain ⟨segs₂, rfl, h₂⟩ := matchSegments_literal h₁
  obtain ⟨id, segs₃, raw₃, rfl, rfl, hrest⟩ := matchSegments_param h₂
  change matchSegments (restPattern op.resource op.polls) segs₃ = some raw₃ at hrest
  cases hresource : op.resource with
  | serviceInstance =>
    cases hpolls : op.polls with
    | false =>
      rw [hresource, hpolls] at hrest
      obtain ⟨rfl, rfl⟩ := matchSegments_nil hrest
      exact ⟨{ instanceId := id }, rfl, rfl, rfl, rfl, by simp⟩
    | true =>
      rw [hresource, hpolls] at hrest
      obtain ⟨segs₄, rfl, hend⟩ := matchSegments_literal hrest
      obtain ⟨rfl, rfl⟩ := matchSegments_nil hend
      exact ⟨{ instanceId := id, polls := true }, rfl, rfl, rfl, rfl, by simp⟩
  | serviceBinding =>
    cases hpolls : op.polls with
    | false =>
      rw [hresource, hpolls] at hrest
      obtain ⟨segs₄, rfl, h₄⟩ := matchSegments_literal hrest
      obtain ⟨binding, segs₅, raw₅, rfl, rfl, hend⟩ := matchSegments_param h₄
      obtain ⟨rfl, rfl⟩ := matchSegments_nil hend
      exact ⟨{ instanceId := id, bindingId := some binding }, rfl, rfl, rfl, rfl, by simp⟩
    | true =>
      rw [hresource, hpolls] at hrest
      obtain ⟨segs₄, rfl, h₄⟩ := matchSegments_literal hrest
      obtain ⟨binding, segs₅, raw₅, rfl, rfl, h₅⟩ := matchSegments_param h₄
      obtain ⟨segs₆, rfl, hend⟩ := matchSegments_literal h₅
      obtain ⟨rfl, rfl⟩ := matchSegments_nil hend
      exact ⟨{ instanceId := id, bindingId := some binding, polls := true }, rfl, rfl, rfl, rfl,
        by simp⟩

end Fitting

/-- **A path that fits a route of an operation spells an address**, and its parameters are the ids of
this address. -/
theorem address_of_find? {bindings : Bool} {path : List Char} {route : Route} {raw : RawParams}
    {m : Method} {op : Operation} (hfind : (brokerTable bindings).find? path = some (route, raw))
    (he : route.endpoint? m = some (.operation op)) :
    ∃ a : Address, segments path = some a.segments ∧ raw = a.params ∧ a.polls = op.polls ∧
      (a.bindingId.isSome = true ↔ op.resource = .serviceBinding) := by
  obtain ⟨hroute, segs, hsegs, hmatch⟩ := match_of_find? hfind
  rw [hsegs]
  -- the route is the plain one of its operation, or has the segment of a platform in front
  rcases brokerTable_patterns hroute he with hpattern | hpattern
  · rw [hpattern] at hmatch
    obtain ⟨a, rfl, rfl, -, hpolls, hbinding⟩ := address_of_matchSegments hmatch
    exact ⟨a, rfl, rfl, hpolls, hbinding⟩
  · rw [hpattern] at hmatch
    obtain ⟨platform, segs', raw', rfl, rfl, hplainly⟩ := matchSegments_param hmatch
    obtain ⟨a, rfl, rfl, hplain, hpolls, hbinding⟩ := address_of_matchSegments hplainly
    refine ⟨{ a with platform := some platform }, ?_, ?_, hpolls, hbinding⟩
    · unfold Address.segments Address.rest
      rw [hplain]
      rfl
    · unfold Address.params
      rw [hplain]
      rfl

/-! ## The texts of parameters -/

theorem lookup_of_decodeParams {raw : RawParams} {ps : Params} (h : decodeParams raw = .ok ps)
    (p : Param) : (raw.lookup p).map percentText? = (ps.get? p).map some := by
  induction raw generalizing ps with
  | nil => cases h; rfl
  | cons x rest ih =>
    obtain ⟨q, seg⟩ := x
    unfold decodeParams at h
    cases htext : percentText? seg with
    | none => rw [htext] at h; cases h
    | some s =>
      rw [htext] at h
      obtain ⟨ps', hps', rfl⟩ := exceptMap_eq_ok.1 h
      rw [List.lookup_cons]
      unfold Params.get?
      by_cases hq : q = p
      · rw [if_pos hq, hq, beq_self_eq_true]
        exact congrArg some htext
      · rw [if_neg hq, beq_false_of_ne fun he => hq he.symm]
        exact ih hps'

/-- **Each parameter is the text of its own segment.** -/
theorem param?_of_decodeParams {a : Address} {ps : Params} (h : decodeParams a.params = .ok ps)
    (p : Param) : (a.param? p).map percentText? = (ps.get? p).map some := by
  rw [← a.lookup_params]
  exact lookup_of_decodeParams h p

end Http

end Brokerage
