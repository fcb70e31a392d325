import Brokerage.Flow.Registry

/-!
# The log of the hooks

Hooks share a log in which each notes that it ran.

* `FlowLog`: the notes, oldest first, with the views `names`, `counts` and `errors`.
* `FlowCall`: what can be asked of a registry and its log, one phase at a time.
* `FlowRegistry.call`: carries out one call.
-/

namespace Brokerage

/-- The note of a hook. A hook after a failure notes the failure. -/
inductive FlowNote where
  | initialization (name : String)
  | completion (name : String)
  | error (name : String) (failure : Failure)
deriving DecidableEq, Repr

/-- The notes of the hooks, oldest first. -/
abbrev FlowLog := List FlowNote

/-- The hook that made a note. -/
def FlowNote.name : FlowNote → String
  | initialization name => name
  | completion name => name
  | error name _ => name

/-- The failure that a note is about. -/
def FlowNote.failure? : FlowNote → Option Failure
  | error _ f => some f
  | _ => none

/-- The note is from before the service. -/
def FlowNote.isInitialization : FlowNote → Bool
  | initialization _ => true
  | _ => false

/-- The note is from after the service. -/
def FlowNote.isCompletion : FlowNote → Bool
  | completion _ => true
  | _ => false

/-- The note is from after a failure. -/
def FlowNote.isError : FlowNote → Bool
  | error _ _ => true
  | _ => false

namespace FlowLog

/-- The hooks that ran, in order. -/
def names (log : FlowLog) : List String := log.map (·.name)

/-- The number of notes of each phase. -/
def counts (log : FlowLog) : Nat × Nat × Nat :=
  (log.countP (·.isInitialization), log.countP (·.isCompletion), log.countP (·.isError))

/-- The failures that were noted, in order. -/
def errors (log : FlowLog) : List Failure := log.filterMap (·.failure?)

end FlowLog

/-- What can be asked of a registry and its log. -/
inductive FlowCall where
  | initialization
  | completion
  | error (failure : Failure)
  /-- Empties the log. -/
  | clear
deriving DecidableEq, Repr

/-- What a call comes to. -/
inductive FlowResult where
  | ok
  | failed (failure : Failure)
  /-- The number of hooks that failed after a failure. -/
  | failures (n : Nat)
deriving DecidableEq, Repr

/-- The result of a phase that a hook may stop. -/
def FlowResult.ofPhase : Except Failure Unit → FlowResult
  | .ok () => .ok
  | .error f => .failed f

/-- **One call**: its result and the notes made during it. -/
def FlowRegistry.run (r : FlowRegistry) : FlowCall → FlowResult × List FlowNote
  | .initialization =>
    let (notes, result) := r.prepare fun h => .initialization h.name
    (.ofPhase result, notes)
  | .completion =>
    let (notes, result) := r.complete fun h => .completion h.name
    (.ofPhase result, notes)
  | .error f =>
    let (notes, n) := r.recover fun h => .error h.name f
    (.failures n, notes)
  | .clear => (.ok, [])

/-- The log after a call. -/
def FlowLog.after (log : FlowLog) (call : FlowCall) (notes : List FlowNote) : FlowLog :=
  match call with
  | .clear => []
  | _ => log ++ notes

/-- The results of calls in turn, each with the notes made during it and the log after it. -/
def FlowRegistry.runAll (r : FlowRegistry) :
    FlowLog → List FlowCall → List (FlowResult × List FlowNote × FlowLog)
  | _, [] => []
  | log, c :: rest =>
    let (result, notes) := r.run c
    let log := FlowLog.after log c notes
    (result, notes, log) :: r.runAll log rest

end Brokerage
