import Brokerage.Pipeline

/-!
# The law of the pipeline

The three loops of the pipeline in closed form: which hooks run, whether the service is asked, and
what is returned.

* `Hook.ran`, `Hook.firstFault?`: the hooks up to and including the first that fails, and what that
  one reports. `runUntilFailure_eq` says that the loop runs these, `runEach_eq` that the loop after a
  failure runs all.
* `Pipeline.verdict`: the first failure in the order of the stages, or what the service returned.
* `Pipeline.passage`: what happens up to the first failure.
* `run_eq`: **a run is its passage, followed after a failure by every hook for failures.**
* `run_asked`: the same for a service that was asked, written out.
-/

namespace Brokerage

variable {α ρ ε : Type}

namespace Hook

/-- The hooks that run: up to the first that fails, that one included. -/
def ran (hooks : List Hook) : List Hook := hooks.take (hooks.findIdx (·.fault.isSome) + 1)

/-- What the first hook that fails reports. -/
def firstFault? (hooks : List Hook) : Option Failure := hooks.findSome? (·.fault)

theorem ran_cons_of_none {h : Hook} {rest : List Hook} (hf : h.fault = none) :
    ran (h :: rest) = h :: ran rest := by
  unfold ran
  rw [List.findIdx_cons, hf]
  rfl

theorem ran_cons_of_some {h : Hook} {rest : List Hook} {f : Failure} (hf : h.fault = some f) :
    ran (h :: rest) = [h] := by
  unfold ran
  rw [List.findIdx_cons, hf]
  rfl

/-- **The loop that stops at a failure** runs the hooks up to it and reports it. -/
theorem runUntilFailure_eq (note : Hook → ε) (hooks : List Hook) :
    runUntilFailure note hooks = ((ran hooks).map note, firstFault? hooks) := by
  induction hooks with
  | nil => rfl
  | cons h rest ih =>
    unfold runUntilFailure firstFault?
    cases hf : h.fault with
    | some f => rw [ran_cons_of_some hf, List.findSome?_cons, hf]; rfl
    | none => rw [ran_cons_of_none hf, List.findSome?_cons, hf, ih]; rfl

/-- **The loop after a failure** runs every hook and counts those that fail. -/
theorem runEach_eq (note : Hook → ε) (hooks : List Hook) :
    runEach note hooks = (hooks.map note, hooks.countP (·.fault.isSome)) := by
  induction hooks with
  | nil => rfl
  | cons h rest ih =>
    rw [runEach, ih, List.countP_cons, List.map_cons, Nat.add_comm]

end Hook

namespace FlowRegistry

variable (r : FlowRegistry) (note : Hook → ε)

theorem prepare_eq :
    r.prepare note = ((Hook.ran r.initialization).map note,
      match Hook.firstFault? r.initialization with
      | some f => .error (.hook .initialization f)
      | none => .ok ()) := by
  unfold prepare
  rw [Hook.runUntilFailure_eq]
  cases Hook.firstFault? r.initialization <;> rfl

theorem complete_eq :
    r.complete note = ((Hook.ran r.completion).map note,
      match Hook.firstFault? r.completion with
      | some f => .error (.hook .completion f)
      | none => .ok ()) := by
  unfold complete
  rw [Hook.runUntilFailure_eq]
  cases Hook.firstFault? r.completion <;> rfl

theorem recover_eq :
    r.recover note = (r.error.map note, r.error.countP (·.fault.isSome)) :=
  Hook.runEach_eq note r.error

end FlowRegistry

namespace Pipeline

/-- **What is returned**: the first failure in the order of the stages, a hook's wrapped once in its
phase; without one, what the service returned. -/
def verdict (flows : FlowRegistry) (outcome : Outcome ρ) : Outcome ρ :=
  match Hook.firstFault? flows.initialization, outcome, Hook.firstFault? flows.completion with
  | some f, _, _ => .error (.hook .initialization f)
  | none, .error f, _ => .error f
  | none, .ok _, some f => .error (.hook .completion f)
  | none, .ok response, none => .ok response

/-- What happens once the service may be asked: the service, and the hooks after it if it did not
fail. -/
def serving [Inhabited ρ] (flows : FlowRegistry) (business : Consultation α ρ) :
    List (Event α ρ) :=
  events business ++
    match business.outcome with
    | .error _ => []
    | .ok response =>
      (Hook.ran flows.completion).map fun h => .completion h.name (response.getD default)

/-- **What happens up to the first failure.** -/
def passage [Inhabited ρ] (flows : FlowRegistry) (business : Consultation α ρ) :
    List (Event α ρ) :=
  (Hook.ran flows.initialization).map (fun h => .initialization h.name) ++
    if Hook.firstFault? flows.initialization = none then serving flows business else []

/-- **What happens after the stages**: every hook for failures sees the failure, if there is one. -/
def aftermath (flows : FlowRegistry) : Outcome ρ → List (Event α ρ)
  | .error f => flows.error.map fun h => .error h.name f
  | .ok _ => []

variable [Inhabited ρ] (flows : FlowRegistry) (business : Consultation α ρ)

/-- The three stages are a passage with its verdict. -/
theorem stages_eq :
    stages flows business = (passage flows business, verdict flows business.outcome) := by
  unfold stages passage serving verdict
  rw [FlowRegistry.prepare_eq]
  cases Hook.firstFault? flows.initialization with
  | some f => simp
  | none =>
    cases business.outcome with
    | error f => simp
    | ok response =>
      simp only [FlowRegistry.complete_eq]
      cases Hook.firstFault? flows.completion <;> simp

/-- **A run is its passage, followed after a failure by every hook for failures.** -/
theorem run_eq :
    (run flows business).trace =
        passage flows business ++ aftermath flows (verdict flows business.outcome) ∧
      (run flows business).outcome = verdict flows business.outcome := by
  unfold run
  rw [stages_eq]
  cases verdict flows business.outcome with
  | error f => simp [FlowRegistry.recover_eq, aftermath]
  | ok response => simp [aftermath]

/-- The passage of a service that is asked: hooks before it, the service, hooks after it. -/
theorem passage_asked (request : α) (served : Outcome ρ) :
    passage flows (.asked request served) =
      (Hook.ran flows.initialization).map (fun h => .initialization h.name) ++
        (if Hook.firstFault? flows.initialization = none then [.service request] else []) ++
        (match Hook.firstFault? flows.initialization, served with
          | none, .ok response =>
            (Hook.ran flows.completion).map fun h => .completion h.name (response.getD default)
          | _, _ => []) := by
  unfold passage serving events Consultation.outcome
  cases Hook.firstFault? flows.initialization with
  | some f => simp
  | none => cases served <;> simp

/-- **The law of the pipeline**, for a service that answers `served` when it is asked. Hooks before
the service run up to the first that fails; the service is asked once if none did; hooks after it
run up to the first that fails, on what it answered or the default; then, if anything failed, every
hook for failures sees the failure that is returned. -/
theorem run_asked (request : α) (served : Outcome ρ) :
    (run flows (.asked request served)).outcome = verdict flows served ∧
      (run flows (.asked request served)).trace =
        (Hook.ran flows.initialization).map (fun h => .initialization h.name) ++
          (if Hook.firstFault? flows.initialization = none then [.service request] else []) ++
          (match Hook.firstFault? flows.initialization, served with
            | none, .ok response =>
              (Hook.ran flows.completion).map fun h => .completion h.name (response.getD default)
            | _, _ => []) ++
          (match (run flows (.asked request served)).outcome with
            | .error f => flows.error.map fun h => .error h.name f
            | .ok _ => []) := by
  obtain ⟨htrace, houtcome⟩ := run_eq flows (.asked request served)
  have hafter : aftermath (α := α) flows (verdict flows served) =
      match verdict flows served with
      | .error f => flows.error.map fun h => .error h.name f
      | .ok _ => [] := by
    cases verdict flows served <;> rfl
  refine ⟨houtcome, ?_⟩
  -- the failure that hooks see is the outcome of this very run
  rw [htrace, houtcome]
  show passage flows (.asked request served) ++ aftermath flows (verdict flows served) = _
  rw [passage_asked, hafter]
  rfl

end Pipeline

end Brokerage
