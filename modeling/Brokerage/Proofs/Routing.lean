import Brokerage.Http.Extract

/-!
# What a route gives an operation

An operation asks for the identifiers of its resource and finds them among the parameters of the path
by name. On the routes of a broker it always does.

* `Operation.asksFor`, `patternParams`: the parameters of an operation, and those of a pattern.
* `params_of_find?`: a path that fits a route has the parameters of its pattern, in order.
* `Params.require_of_mem`: a parameter that is there is found.
* `Suits`: a pattern has what is needed by a method mounted on it.
* `brokerTable_suits`: **every route of a broker suits what is mounted on it.**
-/

namespace Brokerage

/-- The parameters of a path that an operation asks for. -/
def Operation.asksFor (op : Operation) : List Http.Param :=
  match op.resource with
  | .serviceInstance => [.instanceId]
  | .serviceBinding => [.instanceId, .bindingId]

/-- The operation changes its resource. -/
def Operation.changes : Operation → Bool
  | getInstance | pollInstance | getBinding | pollBinding => false
  | _ => true

namespace Http

/-! ## Parameters of a path -/

/-- The parameters of a pattern, in order. -/
def patternParams : List Segment → List Param
  | [] => []
  | .literal _ :: rest => patternParams rest
  | .param p :: rest => p :: patternParams rest

theorem params_of_matchSegments {pattern : List Segment} {segs : List (List Char)}
    {raw : RawParams} (h : matchSegments pattern segs = some raw) :
    raw.map (·.1) = patternParams pattern := by
  induction pattern generalizing segs raw with
  | nil =>
    cases segs with
    | nil => cases h; rfl
    | cons seg segs => cases h
  | cons part pattern ih =>
    cases segs with
    | nil => cases part <;> cases h
    | cons seg segs =>
      cases part with
      | literal s =>
        simp only [matchSegments] at h
        split at h
        · exact ih h
        · cases h
      | param p =>
        simp only [matchSegments] at h
        split at h
        · cases h
        · obtain ⟨rest, hrest, rfl⟩ := Option.map_eq_some_iff.1 h
          rw [List.map_cons, ih hrest, patternParams]

/-- The route that a path fits: it stands in the table, and the segments of the path fit its
pattern. -/
theorem match_of_find? {t : Table} {path : List Char} {route : Route} {raw : RawParams}
    (h : t.find? path = some (route, raw)) :
    route ∈ t ∧ ∃ segs, segments path = some segs ∧ matchSegments route.pattern segs = some raw := by
  obtain ⟨before, r, after, rfl, hr, -⟩ := List.findSome?_eq_some_iff.1 h
  obtain ⟨raw', hmatch, heq⟩ := Option.map_eq_some_iff.1 hr
  obtain ⟨rfl, rfl⟩ := Prod.mk.inj heq
  exact ⟨by simp, Option.bind_eq_some_iff.1 hmatch⟩

/-- **A path that fits a route has the parameters of its pattern.** -/
theorem params_of_find? {t : Table} {path : List Char} {route : Route} {raw : RawParams}
    (h : t.find? path = some (route, raw)) :
    route ∈ t ∧ raw.map (·.1) = patternParams route.pattern := by
  obtain ⟨hroute, segs, -, hsegs⟩ := match_of_find? h
  exact ⟨hroute, params_of_matchSegments hsegs⟩

/-- **A parameter that is there is found.** -/
theorem Params.require_of_mem {ps : Params} {p : Param} (h : p ∈ ps.map (·.1)) :
    ∃ s, ps.require p = .ok s := by
  have hget : ∃ s, ps.get? p = some s := by
    induction ps with
    | nil => cases h
    | cons x rest ih =>
      obtain ⟨q, s⟩ := x
      unfold Params.get?
      by_cases hq : q = p
      · exact ⟨s, if_pos hq⟩
      · rw [if_neg hq]
        exact ih ((List.mem_cons.1 h).resolve_left fun hp => hq hp.symm)
  obtain ⟨s, hs⟩ := hget
  exact ⟨s, by rw [Params.require, hs]⟩

/-! ## The routes of a broker -/

/-- What stands behind a method of a route. -/
theorem Route.mem_of_endpoint? {route : Route} {m : Method} {e : Endpoint}
    (h : route.endpoint? m = some e) : (m, e) ∈ route.methods := by
  obtain ⟨⟨m', _⟩, hfind, rfl⟩ := Option.map_eq_some_iff.1 h
  have hm : m' = m := by simpa using List.find?_some hfind
  exact hm ▸ List.mem_of_find?_eq_some hfind

/-- A pattern has what a method mounted on it needs: the parameters that its operation asks for, a
service that keeps bindings if it is about them, and the method `GET` unless it changes something. -/
def Suits (bindings : Bool) (pattern : List Segment) : Method × Endpoint → Prop
  | (_, .catalog) => True
  | (m, .operation op) =>
    (∀ p ∈ op.asksFor, p ∈ patternParams pattern) ∧
      (op.resource = .serviceBinding → bindings = true) ∧ (op.changes = true ↔ m ≠ .get)

instance (bindings : Bool) (pattern : List Segment) :
    ∀ entry, Decidable (Suits bindings pattern entry)
  | (_, .catalog) => inferInstanceAs (Decidable True)
  | (_, .operation _) => inferInstanceAs (Decidable (_ ∧ _))

theorem plainTable_suits (bindings : Bool) :
    ∀ route ∈ plainTable bindings, ∀ entry ∈ route.methods,
      Suits bindings route.pattern entry := by
  cases bindings <;> decide

/-- The segment of a platform in front takes nothing away. -/
theorem Suits.underPlatform {bindings : Bool} {route : Route} {entry : Method × Endpoint}
    (h : Suits bindings route.pattern entry) :
    Suits bindings route.underPlatform.pattern entry := by
  obtain ⟨m, _ | op⟩ := entry
  · trivial
  · exact ⟨fun p hp => List.mem_cons_of_mem _ (h.1 p hp), h.2⟩

/-- **Every route of a broker suits what is mounted on it.** -/
theorem brokerTable_suits {bindings : Bool} {route : Route} {m : Method} {e : Endpoint}
    (hroute : route ∈ brokerTable bindings) (he : route.endpoint? m = some e) :
    Suits bindings route.pattern (m, e) := by
  have hmem := Route.mem_of_endpoint? he
  -- a route stands in the table as it is, or once more under a platform
  rcases List.mem_append.1 hroute with h | h
  · exact plainTable_suits bindings route h _ hmem
  · obtain ⟨plain, hplain, rfl⟩ := List.mem_map.1 h
    exact (plainTable_suits bindings plain hplain _ hmem).underPlatform

end Http

end Brokerage
