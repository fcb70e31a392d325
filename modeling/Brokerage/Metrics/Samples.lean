import Brokerage.Broker

/-!
# Metrics

* `Series`: what is counted: answers by status, durations, failed hooks by phase.
* `Samples`: how often each series was counted.
* `Samples.record`: counts what a report carries: the answer and the duration of each request, and
  failed hooks by number.
* `Samples.lines`: the samples as a scrape shows them.
-/

namespace Brokerage.Metrics

/-- What is counted. -/
inductive Series where
  /-- Requests of an operation answered with a status. -/
  | requests (op : Operation) (status : Nat)
  /-- Measured durations of an operation. -/
  | durations (op : Operation)
  /-- Failed hooks of an operation in a phase. -/
  | flowFailures (op : Operation) (phase : FlowPhase)
deriving DecidableEq, Repr

/-- How often each series was counted. A series never counted is absent. -/
abbrev Samples := List (Series × Nat)

namespace Samples

/-- The count of a series. -/
def count (s : Series) : Samples → Nat
  | [] => 0
  | (t, n) :: rest => if t = s then n else count s rest

/-- Counts a series `n` more times. -/
def add (s : Series) (n : Nat) : Samples → Samples
  | [] => [(s, n)]
  | (t, m) :: rest => if t = s then (t, m + n) :: rest else (t, m) :: add s n rest

/-- Counts failed hooks. -/
def addFlowFailures (op : Operation) (failures : List (FlowPhase × Nat)) (m : Samples) : Samples :=
  failures.foldl (fun m (phase, n) => m.add (.flowFailures op phase) n) m

/-- Counts requests, each by its answer and its duration. -/
def addRequests (requests : List (Operation × Nat)) (m : Samples) : Samples :=
  requests.foldl (fun m (op, status) => (m.add (.requests op status) 1).add (.durations op) 1) m

/-- **Counts a report.** -/
def record (r : Report) (m : Samples) : Samples :=
  (m.addFlowFailures r.operation r.flowFailures).addRequests r.counted

end Samples

/-! ## Scrapes -/

/-- A family of series. -/
inductive Family where
  | requests
  | durations
  | flowFailures
deriving DecidableEq, Repr

/-- The family of a series. -/
def Series.family : Series → Family
  | .requests _ _ => .requests
  | .durations _ => .durations
  | .flowFailures _ _ => .flowFailures

/-- The name of a family. -/
def Family.name : Family → String
  | .requests => "broker_requests_total"
  | .durations => "broker_request_duration_seconds"
  | .flowFailures => "broker_flows_failures_total"

/-- What a family is about. -/
def Family.help : Family → String
  | .requests => "Total number of broker requests, by operation and status"
  | .durations => "Time taken to process a broker request"
  | .flowFailures => "Total number of failed event flow hooks, by operation and phase"

/-- All families. -/
def Family.all : List Family := [.requests, .durations, .flowFailures]

/-- A label of a sample. -/
def label (name value : String) : String := name ++ "=\"" ++ value ++ "\""

/-- A series as a sample names it. -/
def Series.render : Series → String
  | .requests op status =>
    Family.requests.name ++ "\x7b" ++ label "operation" op.name ++ "," ++
      label "status" (toString status) ++ "\x7d"
  | .durations op =>
    Family.durations.name ++ "_count\x7b" ++ label "operation" op.name ++ "\x7d"
  | .flowFailures op phase =>
    Family.flowFailures.name ++ "\x7b" ++ label "operation" op.name ++ "," ++
      label "phase" phase.name ++ "\x7d"

/-- The line of a sample. -/
def sampleLine (sample : Series × Nat) : String := sample.1.render ++ " " ++ toString sample.2

/-- The lines of all samples, in order. -/
def Samples.lines (m : Samples) : List String :=
  (m.map sampleLine).mergeSort fun a b => decide (a ≤ b)

end Brokerage.Metrics
