import Brokerage.Proofs.Agreement
import Brokerage.Proofs.Medium
import Brokerage.Proofs.Resolve

/-!
# Members that are kept

A record looks for the members that it knows. An object that is kept as it is knows none and reads all
that is written in it. So the value of a message holds every member of such an object, wherever in the
message it stands.

* `Wire.Keeper`: what messages are read from, and when an object keeps its members.
* `Shape.Keeps`: **a value keeps what is written** in the objects that are kept as they are.
* `Fields.SlotKeeps`, `give?_keeps`, `give?_stays`: a member is kept where it is given, and stays there.
* `Shape.keeps_ofDocument`, `Shape.keeps_ofJson`: **what is read keeps what is written.**
-/

namespace Brokerage.Wire

open Json (Document Items)

variable {T K : Type}

/-! ## What it means to keep -/

/-- What messages are read from, and when an object keeps all its members. -/
structure Keeper (T K : Type) extends Medium T K where
  Holds : Json.Members → T → Prop

/-- An object keeps the members of a text if none repeats a name, and the last of each name otherwise. -/
def Keeper.text : Keeper Document (Option String) where
  toMedium := .text
  Holds kept d := ∃ members ms, d = .object members ∧ members.values? = some ms ∧ kept = ms.sorted ∧
    (members.names.Nodup → kept.Perm ms)

/-- It keeps those of a value as they are. -/
def Keeper.value : Keeper Json String where
  toMedium := .value
  Holds kept j := j = .object kept

mutual

/-- **A value keeps what is written** in the objects that are kept as they are. -/
def Shape.Keeps (m : Keeper T K) : (s : Shape) → s.Value → T → Prop
  | .object, kept, t => m.Holds kept t
  | .list item, vs, t => ∃ ts, t = m.array ts ∧ List.Forall₂ (item.Keeps m) vs ts
  | .optional _, none, t => t = m.null
  | .optional inner, some v, t => inner.Keeps m v t
  | .record _ fields, vs, t =>
    (∃ ms, t = m.object ms ∧ ∀ e ∈ ms, fields.MemberKeeps m vs e.1 e.2) ∨
      ∃ ts, t = m.array ts ∧ fields.PlaceKeeps m vs ts
  | _, _, _ => True

/-- The values of a record keep what is written in a member of theirs. -/
def Fields.MemberKeeps (m : Keeper T K) : (fs : Fields) → fs.Values → K → T → Prop
  | .nil, _, _, _ => True
  | .cons name shape _ rest, (v, vs), key, t =>
    (key = m.name name → shape.Keeps m v t) ∧ (key ≠ m.name name → rest.MemberKeeps m vs key t)

/-- The values of a record keep what is written at their places. -/
def Fields.PlaceKeeps (m : Keeper T K) : (fs : Fields) → fs.Values → List T → Prop
  | .nil, _, _ => True
  | .cons _ _ _ _, _, [] => True
  | .cons _ shape _ rest, (v, vs), t :: ts => shape.Keeps m v t ∧ rest.PlaceKeeps m vs ts

end

/-! ## Members -/

namespace Fields

variable {m : Keeper T K} {whole : Bool} {read : (s : Shape) → Option s.Value}

/-- The slot of a member keeps what is written in it. -/
def SlotKeeps (m : Keeper T K) : (fs : Fields) → fs.Slots → K → T → Prop
  | .nil, _, _, _ => True
  | .cons name shape _ rest, (slot, slots), key, t =>
    (key = m.name name → ∃ v, slot = some v ∧ shape.Keeps m v t) ∧
      (key ≠ m.name name → rest.SlotKeeps m slots key t)

/-- **A member is kept in the slot it is given.** -/
theorem give?_keeps {t : T} (hname : Function.Injective m.name) : (fs : Fields) →
    (∀ s ∈ fs.shapes, ∀ v, read s = some v → s.Keeps m v t) → {slots out : fs.Slots} →
      {key : String} → fs.give? whole read slots key = some out → fs.SlotKeeps m out (m.name key) t
  | .nil, _, _, _, _, _ => trivial
  | .cons name shape presence rest, hread, (slot, slots), out, key, h => by
    obtain ⟨hshape, hrest⟩ := List.forall_mem_cons.1 hread
    by_cases hkey : key = name
    · subst hkey
      rw [give?_self] at h
      split at h
      · cases h
      · obtain ⟨v, hv, rfl⟩ := Option.map_eq_some_iff.1 h
        exact ⟨fun _ => ⟨v, rfl, hshape v hv⟩, fun hne => absurd rfl hne⟩
    · rw [give?_of_ne hkey] at h
      obtain ⟨slots', hslots, rfl⟩ := Option.map_eq_some_iff.1 h
      exact ⟨fun heq => absurd (hname heq) hkey, fun _ => give?_keeps hname rest hrest hslots⟩

/-- **It stays there** whatever is given after it. -/
theorem give?_stays {key : K} {t : T} : (fs : Fields) → {slots out : fs.Slots} → {other : String} →
    fs.give? whole read slots other = some out → fs.SlotKeeps m slots key t → fs.SlotKeeps m out key t
  | .nil, _, _, _, _, _ => trivial
  | .cons name shape presence rest, (slot, slots), out, other, h, ⟨hself, hother⟩ => by
    by_cases hname : other = name
    · subst hname
      rw [give?_self] at h
      split at h
      · cases h
      · rename_i hempty
        obtain ⟨v, -, rfl⟩ := Option.map_eq_some_iff.1 h
        refine ⟨fun heq => ?_, hother⟩
        -- a slot that keeps a member is not given another
        obtain ⟨v', hslot, -⟩ := hself heq
        rw [hslot] at hempty
        exact absurd rfl hempty
    · rw [give?_of_ne hname] at h
      obtain ⟨slots', hslots, rfl⟩ := Option.map_eq_some_iff.1 h
      exact ⟨hself, fun hne => give?_stays rest hslots (hother hne)⟩

/-- The values of a record are those of its slots. -/
theorem memberKeeps_of_close {key : K} {t : T} : (fs : Fields) → {slots : fs.Slots} →
    {vs : fs.Values} → fs.close slots = .ok vs → fs.SlotKeeps m slots key t →
      fs.MemberKeeps m vs key t
  | .nil, _, _, _, _ => trivial
  | .cons name shape presence rest, (slot, slots), vs, h, ⟨hself, hother⟩ => by
    unfold close at h
    split at h
    · cases h
    · rename_i v hv
      split at h
      · cases h
      · rename_i vs' hrest
        cases h
        refine ⟨fun heq => ?_, fun hne => memberKeeps_of_close rest hrest (hother hne)⟩
        obtain ⟨v', rfl, hkeeps⟩ := hself heq
        cases hv
        exact hkeeps

end Fields

/-- What a step establishes and no later step undoes holds in the end of every element. -/
theorem forall_mem_of_foldlM {σ α : Type} {step : σ → α → Option σ} (Kept : σ → α → Prop)
    {xs : List α} (hkeeps : ∀ x ∈ xs, ∀ s s', step s x = some s' → Kept s' x)
    (hstays : ∀ x s s' y, step s x = some s' → Kept s y → Kept s' y) {s s' : σ}
    (h : xs.foldlM step s = some s') : ∀ x ∈ xs, Kept s' x := by
  have hlater : ∀ (ys : List α) (t : σ) (y : α), Kept t y → ys.foldlM step t = some s' → Kept s' y := by
    intro ys
    induction ys with
    | nil =>
      intro t y hy hend
      cases hend
      exact hy
    | cons x ys ih =>
      intro t y hy hrun
      rw [List.foldlM_cons] at hrun
      obtain ⟨t', hstep, hrun⟩ := Option.bind_eq_some_iff.1 hrun
      exact ih t' y (hstays x t t' y hstep hy) hrun
  induction xs generalizing s with
  | nil => exact nofun
  | cons x xs ih =>
    obtain ⟨hx, hxs⟩ := List.forall_mem_cons.1 hkeeps
    rw [List.foldlM_cons] at h
    obtain ⟨t, hstep, hrun⟩ := Option.bind_eq_some_iff.1 h
    exact List.forall_mem_cons.2 ⟨hlater xs t x (hx s t hstep) hrun, ih hxs hrun⟩

/-! ## Texts -/

section Documents

variable {room place : Nat}

/-- Items that are read come to their end, and each is kept. -/
theorem keeps_readItems {item : Shape}
    (h : ∀ {d v}, item.ofDocument room d = .ok v → item.Keeps .text v d) : {items : Items} →
      {place : Nat} → {vs : List item.Value} → readItems (item.ofDocument room) place items = .ok vs →
        ∃ ds, items = Items.ofList ds ∧ List.Forall₂ (item.Keeps .text) vs ds
  | .closed, _, _, hread => by
    cases hread
    exact ⟨[], rfl, .nil⟩
  | .cut, _, _, hread => nomatch hread
  | .cons d items, place, vs, hread => by
    rw [readItems_cons] at hread
    cases hd : item.ofDocument room d with
    | error e =>
      rw [hd] at hread
      cases hread
    | ok v =>
      rw [hd] at hread
      obtain ⟨vs', hvs, rfl⟩ := exceptMap_eq_ok.1 hread
      obtain ⟨ds, rfl, hkeeps⟩ := keeps_readItems h hvs
      exact ⟨d :: ds, rfl, .cons (h hd) hkeeps⟩

/-- Items without any left over are kept at their places. -/
theorem keeps_ofDocumentItems (record : String) (size : Nat) : {fields : Fields} →
    (∀ s ∈ fields.shapes, ∀ {d v}, s.ofDocument room d = .ok v → s.Keeps .text v d) →
      {items : Items} → {place : Nat} → {vs : fields.Values} →
        fields.ofDocumentItems record size room place items = .ok (vs, .closed) →
          ∃ ds, items = Items.ofList ds ∧ fields.PlaceKeeps .text vs ds
  | .nil, _, _, _, _, hread => by
    cases hread
    exact ⟨[], rfl, trivial⟩
  | .cons _ _ _ _, _, .closed, _, _, _ => ⟨[], rfl, trivial⟩
  | .cons _ _ _ _, _, .cut, _, _, hread => nomatch hread
  | .cons _ shape _ rest, h, .cons d items, place, vs, hread => by
    obtain ⟨hshape, hrest⟩ := List.forall_mem_cons.1 h
    rw [ofDocumentItems_cons] at hread
    cases hd : shape.ofDocument room d with
    | error e =>
      rw [hd] at hread
      cases hread
    | ok v =>
      rw [hd] at hread
      obtain ⟨⟨vs', left⟩, hvs, hsame⟩ := exceptMap_eq_ok.1 hread
      cases hsame
      obtain ⟨ds, rfl, hkeeps⟩ := keeps_ofDocumentItems record size hrest hvs
      exact ⟨d :: ds, rfl, hshape hd, hkeeps⟩

/-- Members that are read come to their end. -/
theorem exists_ofList_of_readMembers {σ : Type} {member : σ → String → Document → Except Fault σ} :
    {members : Json.Members.Written} → {slots out : σ} → readMembers member slots members = .ok out →
      ∃ ms, members = Json.Members.Written.ofList ms
  | .closed, _, _, _ => ⟨[], rfl⟩
  | .cut, _, _, h => nomatch h
  | .cons none _ _, _, _, h => nomatch h
  | .cons (some key) d members, slots, out, h => by
    rw [readMembers_cons] at h
    obtain ⟨between, -, hrest⟩ := exceptBind_eq_ok.1 h
    obtain ⟨ms, rfl⟩ := exists_ofList_of_readMembers hrest
    exact ⟨(some key, d) :: ms, rfl⟩

/-- **What is read from a text keeps what is written.** -/
theorem Shape.keeps_ofDocument (s : Shape) : ∀ {room : Nat} {d : Document} {v : s.Value},
    s.ofDocument room d = .ok v → s.Keeps .text v d := by
  induction s using Shape.induction with
  | text => exact fun _ => trivial
  | flag blank => exact fun _ => trivial
  | port => exact fun _ => trivial
  | address => exact fun _ => trivial
  | state => exact fun _ => trivial
  | object =>
    intro room d kept h
    cases Document.denotes_of_toJson? (ofDocument_object_iff.1 h) with
    | @object _ members ms hms =>
      have hvalues := (members.toJson?_eq_some_iff.1 hms).1
      exact ⟨members, ms, rfl, hvalues, rfl, fun h => (Json.Members.Written.sorted_perm hms h).2⟩
  | list item ih =>
    intro room d vs h
    cases d with
    | array items =>
      cases room with
      | zero => cases h
      | succ room =>
        obtain ⟨ds, rfl, hkeeps⟩ := keeps_readItems ih h
        exact ⟨ds, rfl, hkeeps⟩
    | _ => cases h
  | optional inner ih =>
    intro room d v h
    by_cases hd : d = .null
    · subst hd
      cases h
      rfl
    · rw [ofDocument_optional hd] at h
      obtain ⟨v, hv, rfl⟩ := exceptMap_eq_ok.1 h
      exact ih hv
  | record name fields ih =>
    intro room d vs h
    cases d with
    | array items =>
      cases room with
      | zero => cases h
      | succ room =>
        rw [ofDocument_array] at h
        obtain ⟨⟨vs', left⟩, hread, hleft⟩ := exceptBind_eq_ok.1 h
        cases left with
        | closed =>
          cases hleft
          obtain ⟨ds, rfl, hkeeps⟩ :=
            keeps_ofDocumentItems name fields.size (fun s hs _ _ => ih s hs) hread
          exact .inr ⟨ds, rfl, hkeeps⟩
        | _ => cases hleft
    | object members =>
      cases room with
      | zero => cases h
      | succ room =>
        rw [ofDocument_object] at h
        obtain ⟨slots, hread, hclose⟩ := exceptBind_eq_ok.1 h
        obtain ⟨ms, rfl⟩ := exists_ofList_of_readMembers hread
        have hgiven := toOption_eq_some_iff.2 hread
        rw [toOption_readMembers_ofList] at hgiven
        have hslots : ∀ e ∈ ms, fields.SlotKeeps .text slots e.1 e.2 := by
          refine forall_mem_of_foldlM (fun slots e => fields.SlotKeeps .text slots e.1 e.2) ?_ ?_ hgiven
          · rintro ⟨key, d⟩ - before after hstep
            obtain ⟨key, rfl, hgive⟩ := Option.bind_eq_some_iff.1 hstep
            refine fields.give?_keeps (Option.some_injective _) (fun s hs v hv => ?_) hgive
            exact ih s hs (toOption_eq_some_iff.1 hv)
          · intro e before after e' hstep hkept
            obtain ⟨key, -, hgive⟩ := Option.bind_eq_some_iff.1 hstep
            exact fields.give?_stays hgive hkept
        have hclose : fields.close slots = .ok vs := by
          rw [← toOption_eq_some_iff, ← toOption_mapError Fault.here]
          exact toOption_eq_some_iff.2 hclose
        exact .inl ⟨ms, rfl, fun e he => fields.memberKeeps_of_close hclose (hslots e he)⟩
    | _ => cases h

end Documents

/-! ## Values -/

/-- Each item is kept. -/
theorem keeps_mapM {item : Shape} (h : ∀ {j v}, item.ofJson j = .ok v → item.Keeps .value v j) :
    {js : List Json} → {vs : List item.Value} → js.mapM item.ofJson = .ok vs →
      List.Forall₂ (item.Keeps .value) vs js
  | [], _, hread => by
    cases hread
    exact .nil
  | j :: js, vs, hread => by
    rw [List.mapM_cons] at hread
    obtain ⟨v, hv, hread⟩ := exceptBind_eq_ok.1 hread
    obtain ⟨vs', hvs, hsame⟩ := exceptBind_eq_ok.1 hread
    cases hsame
    exact .cons (h hv) (keeps_mapM h hvs)

/-- Items without any left over are kept at their places. -/
theorem keeps_ofItems (record : String) (size : Nat) : {fields : Fields} →
    (∀ s ∈ fields.shapes, ∀ {j v}, s.ofJson j = .ok v → s.Keeps .value v j) → {js : List Json} →
      {place : Nat} → {vs : fields.Values} → fields.ofItems record size place js = .ok (vs, []) →
        fields.PlaceKeeps .value vs js
  | .nil, _, _, _, _, _ => trivial
  | .cons _ _ _ _, _, [], _, _, _ => trivial
  | .cons _ shape _ rest, h, j :: js, place, vs, hread => by
    obtain ⟨hshape, hrest⟩ := List.forall_mem_cons.1 h
    rw [ofItems_cons] at hread
    obtain ⟨v, hv, hread⟩ := exceptBind_eq_ok.1 hread
    obtain ⟨⟨vs', left⟩, hvs, hsame⟩ := exceptMap_eq_ok.1 hread
    cases hsame
    exact ⟨hshape hv, keeps_ofItems record size hrest hvs⟩

/-- **What is read from a value keeps what is written.** -/
theorem Shape.keeps_ofJson (s : Shape) : ∀ {j : Json} {v : s.Value}, s.ofJson j = .ok v →
    s.Keeps .value v j := by
  induction s using Shape.induction with
  | text => exact fun _ => trivial
  | flag blank => exact fun _ => trivial
  | port => exact fun _ => trivial
  | address => exact fun _ => trivial
  | state => exact fun _ => trivial
  | object =>
    intro j kept h
    cases j with
    | object ms =>
      cases h
      rfl
    | _ => cases h
  | list item ih =>
    intro j vs h
    cases j with
    | array js => exact ⟨js, rfl, keeps_mapM ih h⟩
    | _ => cases h
  | optional inner ih =>
    intro j v h
    by_cases hj : j = .null
    · subst hj
      cases h
      rfl
    · rw [ofJson_optional hj] at h
      obtain ⟨v, hv, rfl⟩ := exceptMap_eq_ok.1 h
      exact ih hv
  | record name fields ih =>
    intro j vs h
    cases j with
    | array js =>
      rw [ofJson_array] at h
      obtain ⟨⟨vs', left⟩, hread, hleft⟩ := exceptBind_eq_ok.1 h
      cases left with
      | nil =>
        cases hleft
        exact .inr ⟨js, rfl, keeps_ofItems name fields.size (fun s hs _ _ => ih s hs) hread⟩
      | cons => cases hleft
    | object ms =>
      rw [Fields.ofJson_object] at h
      obtain ⟨slots, hread, hclose⟩ := exceptBind_eq_ok.1 h
      have hgiven := toOption_eq_some_iff.2 hread
      rw [fields.toOption_fillAll] at hgiven
      have hslots : ∀ e ∈ ms, fields.SlotKeeps .value slots e.1 e.2 := by
        refine forall_mem_of_foldlM (fun slots e => fields.SlotKeeps .value slots e.1 e.2) ?_ ?_ hgiven
        · rintro ⟨key, j⟩ - before after hstep
          refine fields.give?_keeps Function.injective_id (fun s hs v hv => ?_) hstep
          exact ih s hs (toOption_eq_some_iff.1 hv)
        · intro e before after e' hstep hkept
          exact fields.give?_stays hstep hkept
      exact .inl ⟨ms, rfl, fun e he => fields.memberKeeps_of_close hclose (hslots e he)⟩
    | _ => cases h

end Brokerage.Wire
