import Brokerage.Proofs.Ownership
import Brokerage.Proofs.UnderPlatform

/-!
# Descriptions of metrics

A server describes the families of metrics before it installs its recorder, and what is described while
there is no recorder is lost. So the first start leaves its recorder without descriptions, and only a
second start, of whichever server, brings them.

* `Exporter.Describes`: what is relied on of the text of an exporter: a family has its description in it
  if it was described and has samples.
* `Recorder.textLines_render`, `Recorder.helpLine_mem_lines`: the text of a recorder is its lines, and
  these are as relied on.
* `described_if_started_again`: **the families are described from the second start on**, and not
  before.
-/

namespace Brokerage.Metrics

/-- The line that says what a family is about. -/
def Family.helpLine (f : Family) : String := "# HELP " ++ f.name ++ " " ++ f.help

/-- The line that says what kind of samples a family has. -/
def Family.typeLine (f : Family) : String := "# TYPE " ++ f.name ++ " " ++ f.kind

/-- A family has samples. -/
def Recorder.Counts (r : Recorder) (f : Family) : Prop := ∃ s ∈ r.samples, s.1.family = f

/-! ## Lines -/

/-- The lines of a text, and what stands behind the last of them. -/
def textLines (text : String) : List (List Char) := Http.splitAt '\n' text.toList

theorem textLines_join {lines : List String} (h : ∀ l ∈ lines, '\n' ∉ l.toList) :
    textLines (String.join (lines.map (· ++ "\n"))) = lines.map String.toList ++ [[]] := by
  unfold textLines
  induction lines with
  | nil => rfl
  | cons l lines ih =>
    obtain ⟨hl, hlines⟩ := List.forall_mem_cons.1 h
    have hjoin : (String.join ((l :: lines).map (· ++ "\n"))).toList =
        l.toList ++ '\n' :: (String.join (lines.map (· ++ "\n"))).toList := by
      simp [String.toList_join]
    rw [hjoin, Http.splitAt_append hl, ih hlines]
    rfl

/-! ## What stands in a line -/

theorem newline_not_mem_toDigits (n : Nat) : '\n' ∉ Nat.toDigits 10 n := by
  intro h
  cases Nat.isDigit_of_mem_toDigits (by decide) (by decide) h

theorem newline_not_mem_operation (op : Operation) : '\n' ∉ op.name.toList := by
  cases op <;> decide

theorem newline_not_mem_phase (phase : FlowPhase) : '\n' ∉ phase.name.toList := by
  cases phase <;> decide

theorem newline_not_mem_family (f : Family) :
    '\n' ∉ f.name.toList ∧ '\n' ∉ f.kind.toList ∧ '\n' ∉ f.help.toList := by
  cases f <;> decide

/-- A sample is one line. -/
theorem newline_not_mem_sampleLine (s : Series × Nat) : '\n' ∉ (sampleLine s).toList := by
  have hfamily : ∀ f : Family, '\n' ∉ f.name.toList := fun f => (newline_not_mem_family f).1
  obtain ⟨series, n⟩ := s
  cases series <;>
    simp [sampleLine, Series.render, label, newline_not_mem_operation, newline_not_mem_phase,
      hfamily, newline_not_mem_toDigits]

/-- A sample starts with the name of its family, and so with no sharp. -/
theorem head?_sampleLine (s : Series × Nat) : (sampleLine s).toList.head? = some 'b' := by
  have hname : ∀ f : Family, f.name.toList.head? = some 'b' := by
    intro f
    cases f <;> rfl
  obtain ⟨series, n⟩ := s
  cases series <;> simp [sampleLine, Series.render, hname]

theorem head?_helpLine (f : Family) : f.helpLine.toList.head? = some '#' := by
  cases f <;> rfl

theorem helpLine_ne_typeLine (f g : Family) : f.helpLine ≠ g.typeLine := by
  cases f <;> cases g <;> decide

theorem helpLine_inj (f g : Family) : f.helpLine = g.helpLine ↔ f = g := by
  cases f <;> cases g <;> decide

namespace Recorder

variable (r : Recorder)

theorem helpLine_not_mem_samples (f : Family) (m : Samples) : f.helpLine ∉ m.lines := by
  intro h
  obtain ⟨s, -, hs⟩ := List.mem_map.1 (List.mem_mergeSort.1 h)
  have hhead := head?_sampleLine s
  rw [hs, head?_helpLine] at hhead
  cases hhead

/-- The lines about a family with samples; there are none about one without. -/
theorem mem_familyLines {f : Family} {l : String} : l ∈ r.familyLines f ↔
    r.Counts f ∧ (f ∈ r.described ∧ l = f.helpLine ∨ l = f.typeLine ∨
      l ∈ Samples.lines (r.samples.filter (·.1.family = f)) ∨ l = "") := by
  have hsamples : r.samples.filter (·.1.family = f) = [] ↔ ¬r.Counts f := by
    simp [List.filter_eq_nil_iff, Counts]
  unfold familyLines
  by_cases hcounts : r.Counts f
  · rw [if_neg fun hnil => hsamples.1 hnil hcounts]
    have hhelp : (l ∈ if f ∈ r.described then ["# HELP " ++ f.name ++ " " ++ f.help] else []) ↔
        f ∈ r.described ∧ l = f.helpLine := by
      split <;> simp [*, Family.helpLine]
    simp only [List.mem_append, List.mem_singleton, hhelp, hcounts, true_and, or_assoc]
    rfl
  · rw [if_pos (hsamples.2 hcounts)]
    exact ⟨nofun, fun h => absurd h.1 hcounts⟩

/-- Among the lines about a family its own description is the only one. -/
theorem helpLine_mem_familyLines (f g : Family) :
    f.helpLine ∈ r.familyLines g ↔ g = f ∧ f ∈ r.described ∧ r.Counts f := by
  have hblank : f.helpLine ≠ "" := fun h => by
    have hhead := head?_helpLine f
    rw [h] at hhead
    cases hhead
  rw [mem_familyLines, helpLine_inj]
  simp only [helpLine_ne_typeLine, helpLine_not_mem_samples, hblank, or_false]
  constructor
  · rintro ⟨hcounts, hdescribed, rfl⟩
    exact ⟨rfl, hdescribed, hcounts⟩
  · rintro ⟨rfl, hdescribed, hcounts⟩
    exact ⟨hcounts, hdescribed, rfl⟩

/-- **A family has its description** among the lines if it was described and has samples. -/
theorem helpLine_mem_lines (f : Family) : f.helpLine ∈ r.lines ↔ f ∈ r.described ∧ r.Counts f := by
  unfold lines
  rw [List.mem_flatMap]
  constructor
  · rintro ⟨g, -, hg⟩
    exact ((r.helpLine_mem_familyLines f g).1 hg).2
  · intro h
    have hall : f ∈ Family.all := by cases f <;> decide
    exact ⟨f, hall, (r.helpLine_mem_familyLines f f).2 ⟨rfl, h⟩⟩

theorem newline_not_mem_lines : ∀ l ∈ r.lines, '\n' ∉ l.toList := by
  intro l hl
  obtain ⟨g, -, hg⟩ := List.mem_flatMap.1 hl
  obtain ⟨hname, hkind, hhelp⟩ := newline_not_mem_family g
  obtain ⟨-, ⟨-, rfl⟩ | rfl | hsample | rfl⟩ := r.mem_familyLines.1 hg
  · simp [Family.helpLine, hname, hhelp]
  · simp [Family.typeLine, hname, hkind]
  · obtain ⟨s, -, rfl⟩ := List.mem_map.1 (List.mem_mergeSort.1 hsample)
    exact newline_not_mem_sampleLine s
  · decide

/-- **The text of a recorder is its lines**, each ended. -/
theorem textLines_render : textLines r.render = r.lines.map String.toList ++ [[]] :=
  textLines_join r.newline_not_mem_lines

theorem helpLine_mem_render (f : Family) :
    f.helpLine.toList ∈ textLines r.render ↔ f ∈ r.described ∧ r.Counts f := by
  have hne : f.helpLine.toList ≠ [] := fun h => by
    have hhead := head?_helpLine f
    rw [h] at hhead
    cases hhead
  rw [textLines_render, List.mem_append, List.mem_singleton, ← helpLine_mem_lines]
  constructor
  · intro h
    obtain ⟨l, hl, heq⟩ := List.mem_map.1 (h.resolve_right hne)
    rwa [← String.toList_inj.1 heq]
  · exact fun h => Or.inl (List.mem_map_of_mem h)

end Recorder

/-! ## The text of an exporter -/

/-- **What is relied on of the text of an exporter**: the description of a family is a line of it if the
family was described and has samples, and is not if either is missing. -/
def Exporter.Describes (e : Exporter) : Prop :=
  ∀ (r : Recorder) (f : Family),
    f.helpLine.toList ∈ textLines (e.render r) ↔ f ∈ r.described ∧ r.Counts f

theorem Exporter.describes_standard : Exporter.standard.Describes := Recorder.helpLine_mem_render

/-! ## The law -/

/-- **The families are described from the second start on.** After any calls, the text that a server
shows has the description of a family with samples if servers were started twice or more often, the same
one or another; after one start it has none. -/
theorem described_if_started_again {e : Exporter} (he : e.Reliable) (hdescribes : e.Describes)
    (calls : List HubCall) {server : Nat} {text : String}
    (htext : (Hub.afterAll e {} calls).render? e server = some text)
    {recorder : Recorder} (hrecorder : (Hub.afterAll e {} calls).recorder = some recorder)
    {f : Family} (hf : recorder.Counts f) :
    f.helpLine.toList ∈ textLines text ↔ 1 < (HubCall.started 0 calls).length := by
  have hstanding := Hub.standing_afterAll he calls
  rw [Hub.render?_eq, hrecorder] at htext
  split at htext
  · cases htext
    rw [hdescribes, hstanding.described recorder hrecorder f]
    exact and_iff_left hf
  · cases htext

end Brokerage.Metrics

namespace Brokerage.Sample

open Metrics (Exporter Family Hub HubCall textLines)

/-- What a broker reports of a deletion. -/
def deletionReport : Report := broker.deleteInstance { instanceId, body := entry }

/-- A server is started once, then an instance is deleted. -/
def startedOnce : List HubCall :=
  [.create (.v4 ⟨127, 0, 0, 1⟩ 9090), .start 0, .record deletionReport]

/-- A server is started twice, then an instance is deleted. -/
def startedTwice : List HubCall :=
  [.create (.v4 ⟨127, 0, 0, 1⟩ 9090), .start 0, .start 0, .record deletionReport]

/-- The recorder behind either has counted the deletion. -/
theorem counts_deletion (described : List Family) :
    (Metrics.Recorder.mk described (Metrics.Samples.record deletionReport [])).Counts .requests :=
  have hcounted : (.requests .deleteInstance 200, 1) ∈ Metrics.Samples.record deletionReport [] := by
    decide
  ⟨_, hcounted, rfl⟩

/-- After two starts the deletion is counted under a description. -/
theorem startedTwice_describes : ∃ text,
    (Hub.afterAll .standard {} startedTwice).render? .standard 0 = some text ∧
      Family.requests.helpLine.toList ∈ textLines text :=
  have htext : (Hub.afterAll .standard {} startedTwice).render? .standard 0 = some _ := rfl
  ⟨_, htext, (Metrics.described_if_started_again Metrics.Exporter.reliable_standard
    Metrics.Exporter.describes_standard startedTwice htext rfl (counts_deletion Family.all)).2
      (by decide)⟩

/-- **After one start the deletion is counted, and no description says under what.** -/
theorem startedOnce_describes_nothing : ∃ recorder text,
    (Hub.afterAll .standard {} startedOnce).recorder = some recorder ∧
      recorder.Counts .requests ∧
      (Hub.afterAll .standard {} startedOnce).render? .standard 0 = some text ∧
      Family.requests.helpLine.toList ∉ textLines text := by
  refine ⟨_, _, rfl, counts_deletion [], rfl, fun h => ?_⟩
  cases ((Metrics.Recorder.helpLine_mem_render _ _).1 h).1

end Brokerage.Sample
