import Brokerage.Proofs.FlowMetrics

/-!
# Registries are isolated

Seven registries are wired to nine operations by hand: the fields are spelled out wherever a registry
is set, and again wherever an operation runs its hooks. Here each registry gets a name, and an
operation names the one it may look at. Two brokers that differ in other registries only cannot be
told apart by a call.

* `FlowSlot`: the places for registries; `Operation.slot?` is the place of an operation.
* `FlowRegistries.get`, `put`, `putAll`: what a place holds, and what its setter does, once and in
  turn; `get_putAll` says that **the last registry that is set stays**.
* `Broker.perform?_congr`: **a call depends on the registry of its operation only.**
* `Broker.notes_of_perform?`: the hooks in its log are hooks of this registry.
* `registries_are_isolated`: both, for any registries and any sequence of setters.
-/

namespace Brokerage

/-- A place for a registry. -/
inductive FlowSlot where
  | createInstance
  | updateInstance
  | deleteInstance
  | pollInstance
  | createBinding
  | deleteBinding
  | pollBinding
deriving DecidableEq, Repr

/-- The place that is looked at for an operation: none if it only reads. -/
def Operation.slot? : Operation → Option FlowSlot
  | createInstance => some .createInstance
  | updateInstance => some .updateInstance
  | deleteInstance => some .deleteInstance
  | pollInstance => some .pollInstance
  | createBinding => some .createBinding
  | deleteBinding => some .deleteBinding
  | pollBinding => some .pollBinding
  | getInstance => none
  | getBinding => none

/-! ## Places and their setters -/

namespace FlowRegistries

/-- The registry at a place. -/
def get (rs : FlowRegistries) : FlowSlot → FlowRegistry
  | .createInstance => rs.createInstance
  | .updateInstance => rs.updateInstance
  | .deleteInstance => rs.deleteInstance
  | .pollInstance => rs.pollInstance
  | .createBinding => rs.createBinding
  | .deleteBinding => rs.deleteBinding
  | .pollBinding => rs.pollBinding

/-- The setter of a place. -/
def put (rs : FlowRegistries) : FlowSlot → FlowRegistry → FlowRegistries
  | .createInstance => rs.withCreateInstance
  | .updateInstance => rs.withUpdateInstance
  | .deleteInstance => rs.withDeleteInstance
  | .pollInstance => rs.withPollInstance
  | .createBinding => rs.withCreateBinding
  | .deleteBinding => rs.withDeleteBinding
  | .pollBinding => rs.withPollBinding

/-- Setters in turn. -/
def putAll (rs : FlowRegistries) (sets : List (FlowSlot × FlowRegistry)) : FlowRegistries :=
  sets.foldl (fun rs (slot, r) => rs.put slot r) rs

variable (rs : FlowRegistries) (slot slot' : FlowSlot) (r r' : FlowRegistry)

/-- Registries are what their places hold. -/
theorem ext_get {rs rs' : FlowRegistries} (h : ∀ slot, rs.get slot = rs'.get slot) : rs = rs' := by
  have hcreate := h .createInstance
  have hupdate := h .updateInstance
  have hdelete := h .deleteInstance
  have hpoll := h .pollInstance
  have hbind := h .createBinding
  have hunbind := h .deleteBinding
  have hpollBinding := h .pollBinding
  cases rs
  cases rs'
  simp only [get] at hcreate hupdate hdelete hpoll hbind hunbind hpollBinding
  rw [hcreate, hupdate, hdelete, hpoll, hbind, hunbind, hpollBinding]

/-- A setter changes its own place and no other. -/
theorem get_put : (rs.put slot r).get slot' = if slot = slot' then r else rs.get slot' := by
  cases slot <;> cases slot' <;> rfl

/-- Setters of different places commute. -/
theorem put_comm {slot slot' : FlowSlot} (h : slot ≠ slot') :
    (rs.put slot r).put slot' r' = (rs.put slot' r').put slot r := by
  apply ext_get
  intro place
  simp only [get_put]
  by_cases hslot : slot = place
  · subst hslot
    rw [if_pos rfl, if_pos rfl, if_neg h.symm]
  · rw [if_neg hslot, if_neg hslot]

/-- **The last registry that is set stays.** -/
theorem get_putAll (sets : List (FlowSlot × FlowRegistry)) :
    (rs.putAll sets).get slot =
      ((sets.filter (·.1 = slot)).map (·.2)).getLastD (rs.get slot) := by
  induction sets generalizing rs with
  | nil => rfl
  | cons set rest ih =>
    obtain ⟨place, r⟩ := set
    have hstep : rs.putAll ((place, r) :: rest) = (rs.put place r).putAll rest := rfl
    rw [hstep, ih, get_put, List.filter_cons]
    by_cases hplace : place = slot
    · rw [if_pos hplace, if_pos (decide_eq_true hplace), List.map_cons, List.getLastD_cons]
    · rw [if_neg hplace, if_neg (mt of_decide_eq_true hplace)]

/-- A place for which nothing is set stays as it is. -/
theorem get_putAll_of_forall_ne {sets : List (FlowSlot × FlowRegistry)}
    (h : ∀ set ∈ sets, set.1 ≠ slot) : (rs.putAll sets).get slot = rs.get slot := by
  have hnone : sets.filter (·.1 = slot) = [] :=
    List.filter_eq_nil_iff.2 fun set hset => mt of_decide_eq_true (h set hset)
  rw [get_putAll, hnone]
  rfl

/-- The hooks of an operation are those at its place. -/
theorem of?_eq (op : Operation) : rs.of? op = op.slot?.map rs.get := by
  cases op <;> rfl

end FlowRegistries

/-! ## Calls -/

namespace Broker

variable {b : Broker} {c : Call} {report : Report}

/-- **A call depends on the registry of its operation only.** -/
theorem perform?_congr {flows : FlowRegistries}
    (h : flows.of? c.operation = b.flows.of? c.operation) :
    { b with flows }.perform? c = b.perform? c := by
  cases c with
  | createInstance i =>
    have hown : flows.createInstance = b.flows.createInstance := Option.some.inj h
    simp only [perform?, createInstance, hown]
  | updateInstance i =>
    have hown : flows.updateInstance = b.flows.updateInstance := Option.some.inj h
    simp only [perform?, updateInstance, hown]
  | deleteInstance i =>
    have hown : flows.deleteInstance = b.flows.deleteInstance := Option.some.inj h
    simp only [perform?, deleteInstance, hown]
  | getInstance i => rfl
  | pollInstance i =>
    have hown : flows.pollInstance = b.flows.pollInstance := Option.some.inj h
    simp only [perform?, pollInstance, hown]
  | createBinding i =>
    have hown : flows.createBinding = b.flows.createBinding := Option.some.inj h
    simp only [perform?, createBinding, hown]
  | deleteBinding i =>
    have hown : flows.deleteBinding = b.flows.deleteBinding := Option.some.inj h
    simp only [perform?, deleteBinding, hown]
  | getBinding i => rfl
  | pollBinding i =>
    have hown : flows.pollBinding = b.flows.pollBinding := Option.some.inj h
    simp only [perform?, pollBinding, hown]

/-- The hooks of a phase that ran during a call are the first of its registry. -/
theorem hooksRun_prefix_hooks (b : Broker) (report : Report) (phase : FlowPhase) :
    b.hooksRun report phase <+: ((b.flows.of? report.operation).map (·.hooks phase)).getD [] := by
  unfold hooksRun
  cases b.flows.of? report.operation with
  | none => exact List.nil_prefix
  | some flows => exact List.take_prefix _ _

/-- **The log of a call names hooks of its registry**, phase by phase and in their order. -/
theorem notes_of_perform? (h : b.perform? c = some report) (phase : FlowPhase) :
    (report.notes.filter (·.phase = phase)).map (·.name) <+:
      (((b.flows.of? c.operation).map (·.hooks phase)).getD []).map (·.name) := by
  have hserves : b.Serves c.operation := by
    by_contra hb
    rw [perform?_of_not_serves hb] at h
    cases h
  cases hq : c.resolve b.catalog with
  | error f =>
    -- an entry is missing: no hook runs
    rw [perform?_of_resolve_error hserves hq] at h
    cases h
    exact List.nil_prefix
  | ok q =>
    rw [perform?_of_resolve_ok hq] at h
    have hop : report.operation = c.operation :=
      (operation_of_carryOut? h).trans (operation_of_resolve hq)
    rw [names_hooksRun (carriesOut_of_carryOut? h), ← hop]
    exact (hooksRun_prefix_hooks b report phase).map _

/-- **What only reads runs no hook.** -/
theorem notes_eq_nil_of_slot?_eq_none (hc : c.operation.slot? = none)
    (h : b.perform? c = some report) : report.notes = [] := by
  apply List.eq_nil_iff_forall_not_mem.2
  intro note hnote
  have hnames := notes_of_perform? h note.phase
  rw [b.flows.of?_eq, hc] at hnames
  have hfilter : report.notes.filter (·.phase = note.phase) = [] :=
    List.map_eq_nil_iff.1 (List.prefix_nil.1 hnames)
  exact List.filter_eq_nil_iff.1 hfilter note hnote (decide_eq_true rfl)

end Broker

/-! ## The law -/

/-- **Registries are isolated.** What a call is answered and what its hooks note depends on the
registry at the place of its operation, if it has one: with others elsewhere, however they are set,
its report is the same. Its log names hooks of this registry, and without a place it is empty. A place
holds what was set for it last, and setters of different places commute. -/
theorem registries_are_isolated (b : Broker) (c : Call) :
    (∀ flows : FlowRegistries, (∀ slot ∈ c.operation.slot?, flows.get slot = b.flows.get slot) →
      { b with flows }.perform? c = b.perform? c) ∧
    (∀ sets, (∀ set ∈ sets, c.operation.slot? ≠ some set.1) →
      { b with flows := b.flows.putAll sets }.perform? c = b.perform? c) ∧
    (∀ flows : FlowRegistries, ∀ report ∈ { b with flows }.perform? c, ∀ phase,
      (report.notes.filter (·.phase = phase)).map (·.name) <+:
        ((c.operation.slot?.map fun slot => (flows.get slot).hooks phase).getD []).map (·.name)) ∧
    (c.operation.isGet = true → ∀ flows : FlowRegistries,
      { b with flows }.perform? c = b.perform? c ∧
        ∀ report ∈ { b with flows }.perform? c, report.notes = []) ∧
    ∀ (rs : FlowRegistries) (slot : FlowSlot),
      (∀ sets, (rs.putAll sets).get slot =
        ((sets.filter (·.1 = slot)).map (·.2)).getLastD (rs.get slot)) ∧
      ∀ slot' r r', slot ≠ slot' →
        (rs.put slot r).put slot' r' = (rs.put slot' r').put slot r := by
  have hother : ∀ flows : FlowRegistries,
      (∀ slot ∈ c.operation.slot?, flows.get slot = b.flows.get slot) →
        { b with flows }.perform? c = b.perform? c := by
    intro flows hflows
    apply Broker.perform?_congr
    rw [FlowRegistries.of?_eq, FlowRegistries.of?_eq]
    exact Option.map_congr hflows
  refine ⟨hother, ?_, ?_, ?_, fun rs slot => ⟨rs.get_putAll slot, fun slot' r r' =>
    rs.put_comm r r'⟩⟩
  · intro sets hsets
    apply hother
    intro slot hslot
    apply FlowRegistries.get_putAll_of_forall_ne
    intro set hset heq
    exact hsets set hset (heq ▸ hslot)
  · intro flows report hreport phase
    have hnames := Broker.notes_of_perform? hreport phase
    rwa [FlowRegistries.of?_eq, Option.map_map] at hnames
  · intro hget flows
    have hnone : c.operation.slot? = none := by
      cases hop : c.operation with
      | getInstance => rfl
      | getBinding => rfl
      | _ => rw [hop] at hget; cases hget
    refine ⟨hother flows fun slot hslot => ?_, fun report hreport =>
      Broker.notes_eq_nil_of_slot?_eq_none hnone hreport⟩
    rw [hnone] at hslot
    cases hslot

namespace Sample

/-- A broker of the catalog that notes deletions, and those that fail. -/
def audited : Broker where
  catalog := catalog
  instances := .minimal
  flows :=
    { deleteInstance := { initialization := [{ name := "audit" }], error := [{ name := "alarm" }] } }

/-- Hooks of which one fails. -/
def refusal : FlowRegistry where
  initialization := [{ name := "refuse", fault := some (.invalidParameters "refused") }]

/-- A deletion does not see hooks that fail around creations and polls. -/
theorem deletion_ignores_other_hooks :
    { audited with
      flows := audited.flows.putAll [(.createInstance, refusal), (.pollInstance, refusal)] }.perform?
        (.deleteInstance { instanceId, body := entry }) =
      audited.perform? (.deleteInstance { instanceId, body := entry }) :=
  (registries_are_isolated audited (.deleteInstance { instanceId, body := entry })).2.1
    [(.createInstance, refusal), (.pollInstance, refusal)] (by decide)

end Sample

end Brokerage
