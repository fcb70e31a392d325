import Brokerage.Metrics.Samples
import Brokerage.Net.SocketAddress

/-!
# Metrics servers of a process

A process has at most one recorder. A metrics server that is started tries to install one; the first
to do so owns it and can show it.

* `Metrics.Recorder`: the samples of a process, and which families are described.
* `Metrics.Exporter`: what builds recorders, installs them, or refuses to, and writes their text.
* `Metrics.Hub`: the recorder of a process with its metrics servers.
* `Hub.start?`: starts a server: describes the families, then installs a recorder. What is
  described while there is no recorder is lost. A recorder that is there already is no failure.
* `Hub.render?`: what a server shows, if it owns the recorder.
* `HubCall`, `Hub.call?`: what can be asked of a process.
-/

namespace Brokerage.Metrics

/-- The samples of a process. -/
structure Recorder where
  /-- The families that were described since the recorder was installed. -/
  described : List Family := []
  samples : Samples := []

/-- The recorder with a description of every family. -/
def Recorder.describe (r : Recorder) : Recorder := { r with described := r.described ++ Family.all }

/-- The kind of a family. -/
def Family.kind : Family → String
  | .requests | .flowFailures => "counter"
  | .durations => "histogram"

/-- The lines about a family that has samples. -/
def Recorder.familyLines (r : Recorder) (f : Family) : List String :=
  let samples := r.samples.filter (·.1.family = f)
  if samples = [] then []
  else
    (if f ∈ r.described then ["# HELP " ++ f.name ++ " " ++ f.help] else []) ++
      ["# TYPE " ++ f.name ++ " " ++ f.kind] ++ Samples.lines samples ++ [""]

/-- The lines of all families. -/
def Recorder.lines (r : Recorder) : List String := Family.all.flatMap r.familyLines

/-- The text of the recorder, each line ended. -/
def Recorder.render (r : Recorder) : String := String.join (r.lines.map (· ++ "\n"))

/-- A metrics server. -/
structure Server where
  /-- Where it shows its metrics. -/
  address : Net.SocketAddress
  /-- It installed the recorder of its process. -/
  hasHandle : Bool := false
deriving DecidableEq, Repr

/-! ## Exporters -/

/-- What builds recorders, installs them and writes their text. A refusal is a text. -/
structure Exporter where
  /-- Gives the histograms whose names end in a suffix their buckets, by upper bounds in
  milliseconds. -/
  setBuckets : (suffix : String) → (bounds : List Nat) → Except String Unit
  /-- Installs a recorder in a process that has one already or not. -/
  install : (installed : Bool) → Except String Unit
  /-- The text of a recorder. -/
  render : Recorder → String

/-- The exporter of a process: no histogram is without buckets, and no second recorder is installed.
Of a histogram its text has the number of samples alone: how long they took is not known here. -/
def Exporter.standard : Exporter where
  setBuckets _ bounds :=
    if bounds = [] then .error "bucket bounds/quantiles cannot be empty" else .ok ()
  install installed :=
    if installed then .error
      ("failed to install exporter as global recorder: attempted to set a recorder after the " ++
        "metrics system was already initialized")
    else .ok ()
  render := Recorder.render

/-- Which histograms have buckets. -/
def durationSuffix : String := "duration_seconds"

/-- The upper bounds of their buckets, in milliseconds. -/
def durationBounds : List Nat := [1, 5, 10, 25, 50, 100, 250, 500, 1000, 2500, 5000, 10000]

/-- Why a server could not be started. -/
inductive StartFailure where
  | build (reason : String)
  | install (reason : String)
deriving DecidableEq, Repr

/-- The words for a failure. -/
def StartFailure.message : StartFailure → String
  | build reason => "Failed to build metrics exporter: " ++ reason
  | install reason => "Failed to install metrics exporter: " ++ reason

/-- The words by which a refusal tells that a recorder is there already. -/
def alreadyInstalled : String := "already initialized"

/-- Characters occur in others, one behind the other. -/
def occursIn (part : List Char) : List Char → Bool
  | [] => part.isEmpty
  | c :: rest => part.isPrefixOf (c :: rest) || occursIn part rest

/-- The refusal tells that a recorder is there already. -/
def tellsInstalled (reason : String) : Bool := occursIn alreadyInstalled.toList reason.toList

/-! ## Processes -/

/-- What a process shows: its recorder, if one was installed, and its metrics servers, oldest
first. -/
structure Hub where
  recorder : Option Recorder := none
  servers : List Server := []

namespace Hub

/-- The hub with one more server. -/
def create (h : Hub) (address : Net.SocketAddress) : Hub :=
  { h with servers := h.servers ++ [{ address }] }

/-- The hub with descriptions, if there is a recorder to keep them. -/
def describe (h : Hub) : Hub := { h with recorder := h.recorder.map (·.describe) }

/-- The hub with a new recorder, which a server owns. -/
def own (h : Hub) (server : Nat) : Hub where
  recorder := some {}
  servers := h.servers.modify server fun s => { s with hasHandle := true }

/-- A server tries to install a recorder: what it reports, and the hub behind it. -/
def install (e : Exporter) (h : Hub) (server : Nat) : Except StartFailure Unit × Hub :=
  match e.setBuckets durationSuffix durationBounds with
  | .error reason => (.error (.build reason), h)
  | .ok () =>
    match e.install h.recorder.isSome with
    | .ok () => (.ok (), h.own server)
    | .error reason => (if tellsInstalled reason then .ok () else .error (.install reason), h)

/-- **Starts a server**, if there is one of the number: what it reports, and the hub behind it. -/
def start? (e : Exporter) (h : Hub) (server : Nat) : Option (Except StartFailure Unit × Hub) :=
  if server < h.servers.length then some (h.describe.install e server) else none

/-- The hub after a report of a broker. Without a recorder nothing is counted. -/
def record (h : Hub) (r : Report) : Hub :=
  { h with recorder := h.recorder.map fun rec => { rec with samples := rec.samples.record r } }

/-- What a server shows: the text of the recorder, if it installed it. -/
def render? (e : Exporter) (h : Hub) (server : Nat) : Option String :=
  match h.servers[server]? with
  | some s => if s.hasHandle then h.recorder.map e.render else none
  | none => none

end Hub

/-- What can be asked of a process. -/
inductive HubCall where
  /-- One more server. -/
  | create (address : Net.SocketAddress)
  | start (server : Nat)
  /-- What a server shows. -/
  | render (server : Nat)
  /-- A broker reports. -/
  | record (report : Report)

/-- What a call comes to. -/
inductive HubResult where
  | done
  | started (result : Except StartFailure Unit)
  | rendered (text : Option String)

namespace Hub

/-- **One call**: its result and the hub behind it; none about a server that there is not. -/
def call? (e : Exporter) (h : Hub) : HubCall → Option (HubResult × Hub)
  | .create address => some (.done, h.create address)
  | .start server => (h.start? e server).map fun (result, h) => (.started result, h)
  | .render server =>
    if server < h.servers.length then some (.rendered (h.render? e server), h) else none
  | .record report => some (.done, h.record report)

/-- The hub after a call; one that cannot be made changes nothing. -/
def after (e : Exporter) (h : Hub) (c : HubCall) : Hub :=
  match h.call? e c with
  | some (_, h) => h
  | none => h

end Hub

end Brokerage.Metrics
