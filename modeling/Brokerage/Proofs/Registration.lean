import Brokerage.Proofs.Pipeline

/-!
# Registered hooks

A registry is put together hook by hook, for whichever phase, or given as three lists. Asked for its
phases one after another it keeps one log, and what it notes there can be said without its loops.

* `Registration.hooks`: the hooks registered for a phase, in order.
* `FlowRegistry.registerAll_eq`: **hooks registered in turn are the three lists** of the phases.
* `Hook.Stops`, `Hook.stops_iff`: the hooks of a phase that stops at the first failure.
* `FlowRegistry.Answers`, `answers_iff`: what one call comes to, and what it notes.
* `FlowRegistry.Logs`, `logs_iff`: the same for calls in turn and the log that they share.
* `registrations_are_lists`: both together.
-/

namespace Brokerage

/-! ## Registrations -/

/-- A hook with the phase that it is registered for. -/
structure Registration where
  phase : FlowPhase
  hook : Hook

/-- The hooks registered for a phase, in order. -/
def Registration.hooks (phase : FlowPhase) (xs : List Registration) : List Hook :=
  (xs.filter (·.phase = phase)).map (·.hook)

namespace FlowRegistry

/-- The registry with one more hook. -/
def register (r : FlowRegistry) (x : Registration) : FlowRegistry :=
  match x.phase with
  | .initialization => r.withInitialization x.hook
  | .completion => r.withCompletion x.hook
  | .error => r.withError x.hook

/-- The registry with hooks registered in turn. -/
def registerAll (r : FlowRegistry) (xs : List Registration) : FlowRegistry := xs.foldl register r

/-- The registry of the lists that registrations come to. -/
def ofRegistrations (xs : List Registration) : FlowRegistry :=
  ofLists (Registration.hooks .initialization xs) (Registration.hooks .completion xs)
    (Registration.hooks .error xs)

/-- **Hooks registered in turn** stand behind those that are there, phase by phase. -/
theorem registerAll_eq (r : FlowRegistry) (xs : List Registration) :
    r.registerAll xs = ofLists (r.initialization ++ Registration.hooks .initialization xs)
      (r.completion ++ Registration.hooks .completion xs)
      (r.error ++ Registration.hooks .error xs) := by
  induction xs generalizing r with
  | nil => simp [registerAll, ofLists, Registration.hooks]
  | cons x xs ih =>
    have hstep : r.registerAll (x :: xs) = (r.register x).registerAll xs := rfl
    obtain ⟨phase, hook⟩ := x
    rw [hstep, ih]
    -- the first hook goes behind those of its own phase, the other two lists stay
    cases phase <;>
      simp [register, withInitialization, withCompletion, withError, Registration.hooks]

end FlowRegistry

/-! ## One call -/

namespace Hook

/-- **Hooks up to the first that fails**: those that run, and what the last of them reports. -/
inductive Stops : List Hook → List Hook → Option Failure → Prop
  | passed {hooks : List Hook} (hnone : ∀ h ∈ hooks, h.fault = none) : Stops hooks hooks none
  | failed {before after : List Hook} {h : Hook} {f : Failure}
      (hbefore : ∀ g ∈ before, g.fault = none) (hfault : h.fault = some f) :
      Stops (before ++ h :: after) (before ++ [h]) (some f)

theorem ran_append {before : List Hook} (hbefore : ∀ g ∈ before, g.fault = none)
    (rest : List Hook) : ran (before ++ rest) = before ++ ran rest := by
  induction before with
  | nil => rfl
  | cons g before ih =>
    obtain ⟨hg, hbefore⟩ := List.forall_mem_cons.1 hbefore
    rw [List.cons_append, ran_cons_of_none hg, ih hbefore, List.cons_append]

theorem ran_of_passed {hooks : List Hook} (hnone : ∀ h ∈ hooks, h.fault = none) :
    ran hooks = hooks := by
  have hran : ran (hooks ++ []) = hooks ++ [] := ran_append hnone []
  rwa [List.append_nil] at hran

/-- The hooks that run are those up to the first that fails. -/
theorem stops_iff {hooks ran' : List Hook} {fault : Option Failure} :
    Stops hooks ran' fault ↔ ran' = ran hooks ∧ fault = firstFault? hooks := by
  constructor
  · intro h
    cases h with
    | passed hnone =>
      exact ⟨(ran_of_passed hnone).symm, (List.findSome?_eq_none_iff.2 hnone).symm⟩
    | failed hbefore hfault =>
      rw [ran_append hbefore, ran_cons_of_some hfault]
      exact ⟨rfl, (List.findSome?_eq_some_iff.2 ⟨_, _, _, rfl, hfault, hbefore⟩).symm⟩
  · rintro ⟨rfl, rfl⟩
    cases hfault : firstFault? hooks with
    | none =>
      have hnone := List.findSome?_eq_none_iff.1 hfault
      rw [ran_of_passed hnone]
      exact .passed hnone
    | some f =>
      obtain ⟨before, h, after, rfl, hf, hbefore⟩ := List.findSome?_eq_some_iff.1 hfault
      rw [ran_append hbefore, ran_cons_of_some hf]
      exact .failed hbefore hf

end Hook

/-- The result of a phase that may stop: the failure of a hook, wrapped once. -/
def HookPhase.result (phase : HookPhase) : Option Failure → FlowResult
  | none => .ok
  | some f => .failed (.hook phase f)

namespace FlowRegistry

/-- **What a call comes to**: its result, and the notes that the hooks make. -/
inductive Answers (r : FlowRegistry) : FlowCall → FlowResult → List FlowNote → Prop
  | initialization {ran : List Hook} {fault : Option Failure}
      (h : Hook.Stops r.initialization ran fault) :
      Answers r .initialization (HookPhase.initialization.result fault)
        (ran.map fun h => .initialization h.name)
  | completion {ran : List Hook} {fault : Option Failure}
      (h : Hook.Stops r.completion ran fault) :
      Answers r .completion (HookPhase.completion.result fault)
        (ran.map fun h => .completion h.name)
  | error (f : Failure) :
      Answers r (.error f) (.failures (r.error.countP (·.fault.isSome)))
        (r.error.map fun h => .error h.name f)
  | clear : Answers r .clear .ok []

variable {r : FlowRegistry}

theorem run_initialization : r.run .initialization =
    (HookPhase.initialization.result (Hook.firstFault? r.initialization),
      (Hook.ran r.initialization).map fun h => .initialization h.name) := by
  unfold run
  rw [prepare_eq]
  cases Hook.firstFault? r.initialization <;> rfl

theorem run_completion : r.run .completion =
    (HookPhase.completion.result (Hook.firstFault? r.completion),
      (Hook.ran r.completion).map fun h => .completion h.name) := by
  unfold run
  rw [complete_eq]
  cases Hook.firstFault? r.completion <;> rfl

theorem run_error (f : Failure) : r.run (.error f) =
    (.failures (r.error.countP (·.fault.isSome)), r.error.map fun h => .error h.name f) := by
  have hrecover := r.recover_eq fun h => FlowNote.error h.name f
  show (FlowResult.failures (r.recover _).2, (r.recover _).1) = _
  rw [hrecover]

/-- **One call** comes to what it may come to, and to nothing else. -/
theorem answers_iff {c : FlowCall} {result : FlowResult} {notes : List FlowNote} :
    r.Answers c result notes ↔ r.run c = (result, notes) := by
  constructor
  · intro h
    cases h with
    | initialization h =>
      obtain ⟨rfl, rfl⟩ := Hook.stops_iff.1 h
      exact run_initialization
    | completion h =>
      obtain ⟨rfl, rfl⟩ := Hook.stops_iff.1 h
      exact run_completion
    | error f => exact run_error f
    | clear => rfl
  · intro h
    cases c with
    | initialization =>
      cases run_initialization.symm.trans h
      exact .initialization (Hook.stops_iff.2 ⟨rfl, rfl⟩)
    | completion =>
      cases run_completion.symm.trans h
      exact .completion (Hook.stops_iff.2 ⟨rfl, rfl⟩)
    | error f =>
      cases (run_error f).symm.trans h
      exact .error f
    | clear =>
      cases h
      exact .clear

/-! ## Calls in turn -/

/-- **What calls in turn come to**: each its result, its notes and the log behind it. The notes go
behind the log before the call; only to clear it empties the log. -/
inductive Logs (r : FlowRegistry) :
    FlowLog → List FlowCall → List (FlowResult × List FlowNote × FlowLog) → Prop
  | nil {log : FlowLog} : Logs r log [] []
  | noted {log : FlowLog} {c : FlowCall} {result : FlowResult} {notes : List FlowNote}
      {calls : List FlowCall} {entries : List (FlowResult × List FlowNote × FlowLog)}
      (hc : c ≠ .clear) (hanswer : r.Answers c result notes)
      (hrest : Logs r (log ++ notes) calls entries) :
      Logs r log (c :: calls) ((result, notes, log ++ notes) :: entries)
  | cleared {log : FlowLog} {calls : List FlowCall}
      {entries : List (FlowResult × List FlowNote × FlowLog)} (hrest : Logs r [] calls entries) :
      Logs r log (.clear :: calls) ((.ok, [], []) :: entries)

theorem runAll_cons_clear (r : FlowRegistry) (log : FlowLog) (calls : List FlowCall) :
    r.runAll log (.clear :: calls) = (.ok, [], []) :: r.runAll [] calls := rfl

theorem runAll_cons {c : FlowCall} (hc : c ≠ .clear) {result : FlowResult} {notes : List FlowNote}
    (hanswer : r.Answers c result notes) (log : FlowLog) (calls : List FlowCall) :
    r.runAll log (c :: calls) = (result, notes, log ++ notes) :: r.runAll (log ++ notes) calls := by
  have hafter : FlowLog.after log c notes = log ++ notes := by
    cases c with
    | clear => exact absurd rfl hc
    | _ => rfl
  rw [runAll, answers_iff.1 hanswer]
  show (_, _, FlowLog.after log c notes) :: r.runAll (FlowLog.after log c notes) calls = _
  rw [hafter]

/-- **Calls in turn** come to what they may come to, and to nothing else. -/
theorem logs_iff {log : FlowLog} {calls : List FlowCall}
    {entries : List (FlowResult × List FlowNote × FlowLog)} :
    r.Logs log calls entries ↔ r.runAll log calls = entries := by
  constructor
  · intro h
    induction h with
    | nil => rfl
    | noted hc hanswer _ ih => rw [runAll_cons hc hanswer, ih]
    | cleared _ ih => rw [runAll_cons_clear, ih]
  · rintro rfl
    induction calls generalizing log with
    | nil => exact .nil
    | cons c calls ih =>
      by_cases hc : c = .clear
      · subst hc
        rw [runAll_cons_clear]
        exact .cleared ih
      · have hanswer : r.Answers c (r.run c).1 (r.run c).2 := answers_iff.2 rfl
        rw [runAll_cons hc hanswer]
        exact .noted hc hanswer ih

end FlowRegistry

/-- **Hooks registered one by one are the hooks of three lists.** In whatever order hooks are
registered, the registry is that of the lists of the phases, with as many hooks in each. Calls in turn
have the same results, notes and logs on both: a phase before or after the service notes its hooks up to
the first that fails and reports that failure, wrapped once; after a failure every hook notes it, and
those that fail are counted; to clear the log empties it. -/
theorem registrations_are_lists (xs : List Registration) :
    FlowRegistry.registerAll {} xs = .ofRegistrations xs ∧
      (FlowRegistry.registerAll {} xs).counts =
        (xs.countP (·.phase = .initialization), xs.countP (·.phase = .completion),
          xs.countP (·.phase = .error)) ∧
      ∀ (log : FlowLog) (calls : List FlowCall),
        (FlowRegistry.registerAll {} xs).runAll log calls =
          (FlowRegistry.ofRegistrations xs).runAll log calls ∧
        ∀ entries, (FlowRegistry.ofRegistrations xs).runAll log calls = entries ↔
          (FlowRegistry.ofRegistrations xs).Logs log calls entries := by
  have hlists : FlowRegistry.registerAll {} xs = .ofRegistrations xs :=
    FlowRegistry.registerAll_eq {} xs
  have hlength : ∀ phase, (Registration.hooks phase xs).length = xs.countP (·.phase = phase) := by
    intro phase
    rw [Registration.hooks, List.length_map, List.countP_eq_length_filter]
  refine ⟨hlists, ?_, fun log calls => ⟨by rw [hlists], fun entries => FlowRegistry.logs_iff.symm⟩⟩
  rw [hlists]
  simp only [FlowRegistry.counts, FlowRegistry.ofRegistrations, FlowRegistry.ofLists, hlength]

end Brokerage
