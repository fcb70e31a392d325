import Brokerage.Proofs.Members
import Brokerage.Proofs.Resolve
import Brokerage.Proofs.SocketAddress
import Mathlib.Data.List.Forall2

/-!
# What is written is read back

A message is written and read after the same shape, but not by the same rules: writing leaves blank
members out, reading has a blank for members that are missing. A shape is regular if the two agree at
each of its members. Then the value that was written is read, in whatever order an object lists its
members.

* `Shape.isRegular`: the agreement, which can be checked.
* `Shape.Writes`: a JSON value writes a value of the shape; the members of records stand in any order.
* `Fields.fillAll_perm`: the order in which members are read does not matter if all can be read.
* `Shape.ofJson_of_writes`: **what is written is read back**, for every regular shape.
* `Wire.Faithful`, `Wire.RoundTrips`: the same for a type of messages, up to what it holds besides
  its message.
* `messages_round_trip`: every message that a broker writes.
-/

namespace Brokerage.Wire

/-! ## Regular shapes -/

/-- Null is a value of the shape. -/
def Shape.isOptional : Shape → Bool
  | .optional _ => true
  | _ => false

mutual

/-- Reading undoes writing: null stands for one value, and what is left out is read as it was. -/
def Shape.isRegular : Shape → Bool
  | .list item => item.isRegular
  | .optional inner => !inner.isOptional && inner.isRegular
  | .record _ fields => fields.isRegular
  | _ => true

/-- The same for the members of a record, which need names of their own. -/
def Fields.isRegular : Fields → Bool
  | .nil => true
  | .cons name shape presence rest =>
    !rest.knows name && (!presence.omitted || presence.defaulted || shape.isOptional) &&
      shape.isRegular && rest.isRegular

end

mutual

/-- **A JSON value writes a value of the shape.** The members of a record may stand in any order. -/
def Shape.Writes : (s : Shape) → s.Value → Json → Prop
  | .list item, vs, j => ∃ js, j = .array js ∧ List.Forall₂ item.Writes vs js
  | .optional _, none, j => j = .null
  | .optional inner, some v, j => inner.Writes v j
  | .record _ fields, vs, j => ∃ ms ms', j = .object ms ∧ ms.Perm ms' ∧ fields.Writes vs ms'
  | .text, s, j => j = .text s
  | .flag _, b, j => j = .bool b
  | .port, p, j => j = .int p.toNat
  | .address, a, j => j = .text a.render
  | .state, st, j => j = .text st.name
  | .object, ms, j => j = .object ms

/-- Members write the values of a record, in its order and without those that are left out. -/
def Fields.Writes : (fs : Fields) → fs.Values → Json.Members → Prop
  | .nil, _, ms => ms = []
  | .cons name shape presence rest, (v, vs), ms =>
    if presence.omitted && shape.isBlank v then rest.Writes vs ms
    else ∃ j ms', ms = (name, j) :: ms' ∧ shape.Writes v j ∧ rest.Writes vs ms'

end

mutual

/-- The value that is written is one that writes. -/
theorem Shape.writes_toJson : (s : Shape) → (v : s.Value) → s.Writes v (s.toJson v)
  | .list item, vs => by
    refine ⟨vs.map item.toJson, rfl, ?_⟩
    rw [List.forall₂_map_right_iff]
    exact List.forall₂_same.2 fun v _ => item.writes_toJson v
  | .optional _, none => rfl
  | .optional inner, some v => inner.writes_toJson v
  | .record _ fields, vs =>
    ⟨fields.toMembers vs, fields.toMembers vs, rfl, .refl _, fields.writes_toMembers vs⟩
  | .text, _ => rfl
  | .flag _, _ => rfl
  | .port, _ => rfl
  | .address, _ => rfl
  | .state, _ => rfl
  | .object, _ => rfl

theorem Fields.writes_toMembers : (fs : Fields) → (vs : fs.Values) → fs.Writes vs (fs.toMembers vs)
  | .nil, _ => rfl
  | .cons name shape presence rest, (v, vs) => by
    unfold Fields.Writes Fields.toMembers
    split
    · exact rest.writes_toMembers vs
    · exact ⟨shape.toJson v, rest.toMembers vs, rfl, shape.writes_toJson v, rest.writes_toMembers vs⟩

end

/-- Only what is optional is written as null. -/
theorem Shape.not_writes_null {s : Shape} (h : s.isOptional = false) (v : s.Value) :
    ¬s.Writes v .null := by
  intro hnull
  cases s with
  | optional inner => cases h
  | list item =>
    obtain ⟨js, hjs, -⟩ := hnull
    cases hjs
  | record name fields =>
    obtain ⟨ms, ms', hms, -⟩ := hnull
    cases hms
  | _ => cases hnull

/-- What is left out is what is read in its place. -/
theorem Shape.missing?_of_isBlank {s : Shape} {presence : Presence}
    (h : presence.defaulted = true ∨ s.isOptional = true) {v : s.Value} (hv : s.isBlank v = true) :
    s.missing? presence = some v := by
  cases s with
  | optional inner =>
    cases v with
    | none => rfl
    | some v => cases hv
  | list item =>
    cases v with
    | nil =>
      obtain hdefaulted | hoptional := h
      · exact if_pos hdefaulted
      · cases hoptional
    | cons v vs => cases hv
  | _ => cases hv

/-! ## Members in any order -/

namespace Fields

variable {name key : String} {shape : Shape} {presence : Presence} {rest : Fields}

theorem fillAll_cons_eq_ok {fs : Fields} {slots out : fs.Slots} {j : Json} {ms : Json.Members} :
    fs.fillAll slots ((key, j) :: ms) = .ok out ↔
      ∃ slots', fs.fill slots key j = .ok slots' ∧ fs.fillAll slots' ms = .ok out := by
  unfold fillAll
  rw [List.foldlM_cons]
  exact exceptBind_eq_ok

/-- The member of the first slot is read unless it was before. -/
theorem fill_self_eq_ok {slot : Option shape.Value} {slots : rest.Slots} {j : Json}
    {out : Option shape.Value × rest.Slots} :
    (Fields.cons name shape presence rest).fill (slot, slots) name j = .ok out ↔
      slot = none ∧ ∃ v, shape.ofJson j = .ok v ∧ (some v, slots) = out := by
  rw [fill_self rfl]
  cases slot with
  | none => simp only [Option.isSome_none, Bool.false_eq_true, if_false, exceptMap_eq_ok, true_and]
  | some v => exact ⟨nofun, nofun⟩

theorem fill_of_ne_eq_ok (h : key ≠ name) {slot : Option shape.Value} {slots : rest.Slots} {j : Json}
    {out : Option shape.Value × rest.Slots} :
    (Fields.cons name shape presence rest).fill (slot, slots) key j = .ok out ↔
      ∃ slots', rest.fill slots key j = .ok slots' ∧ (slot, slots') = out := by
  rw [fill_of_ne h]
  exact exceptMap_eq_ok

/-- **The order of members does not matter** if all can be read and none comes twice. -/
theorem fillAll_perm {fs : Fields} {ms ms' : Json.Members} (hperm : ms'.Perm ms)
    (hnodup : (ms'.map (·.1)).Nodup) {slots out : fs.Slots} (h : fs.fillAll slots ms' = .ok out) :
    fs.fillAll slots ms = .ok out := by
  have hsame := fs.toOption_fillAll_perm hperm hnodup slots
  exact (toOption_eq_iff.1 hsame out).1 h

/-- Members of other names leave the first slot alone. -/
theorem fillAll_of_ne (slot : Option shape.Value) {ms : Json.Members} (h : ∀ m ∈ ms, m.1 ≠ name)
    {slots out : rest.Slots} (hms : rest.fillAll slots ms = .ok out) :
    (Fields.cons name shape presence rest).fillAll (slot, slots) ms = .ok (slot, out) := by
  induction ms generalizing slots with
  | nil => exact congrArg _ (congrArg _ (Except.ok.inj hms))
  | cons m ms ih =>
    obtain ⟨hm, hms'⟩ := List.forall_mem_cons.1 h
    obtain ⟨between, hfill, hrest⟩ := fillAll_cons_eq_ok.1 hms
    exact fillAll_cons_eq_ok.2
      ⟨(slot, between), (fill_of_ne_eq_ok hm).2 ⟨between, hfill, rfl⟩, ih hms' hrest⟩

/-- The names that are written are known. -/
theorem knows_of_writes : (fs : Fields) → {vs : fs.Values} → {ms : Json.Members} →
    fs.Writes vs ms → ∀ m ∈ ms, fs.knows m.1 = true
  | .nil, _, _, h => by
    have hnil : _ = [] := h
    simp [hnil]
  | .cons name shape presence rest, (v, vs), ms, h => by
    unfold Writes at h
    intro m hm
    unfold knows
    split at h
    · rw [knows_of_writes rest h m hm, Bool.or_true]
    · obtain ⟨j, ms', rfl, -, hrest⟩ := h
      obtain rfl | hm' := List.mem_cons.1 hm
      · rw [beq_self_eq_true, Bool.true_or]
      · rw [knows_of_writes rest hrest m hm', Bool.or_true]

/-- Names that are written come once. -/
theorem nodup_of_writes : (fs : Fields) → fs.isRegular = true → {vs : fs.Values} →
    {ms : Json.Members} → fs.Writes vs ms → (ms.map (·.1)).Nodup
  | .nil, _, _, _, h => by
    have hnil : _ = [] := h
    simp [hnil]
  | .cons name shape presence rest, hregular, (v, vs), ms, h => by
    unfold isRegular at hregular
    simp only [Bool.and_eq_true, Bool.not_eq_true'] at hregular
    unfold Writes at h
    split at h
    · exact nodup_of_writes rest hregular.2 h
    · obtain ⟨j, ms', rfl, -, hrest⟩ := h
      refine List.nodup_cons.2 ⟨fun hmem => ?_, nodup_of_writes rest hregular.2 hrest⟩
      obtain ⟨m, hm, hname⟩ := List.mem_map.1 hmem
      have hknows := knows_of_writes rest hrest m hm
      rw [hname, hregular.1.1.1] at hknows
      cases hknows

end Fields

/-! ## Reading back -/

theorem mapM_eq_ok {α β ε : Type} {f : α → Except ε β} {xs : List α} {ys : List β}
    (h : List.Forall₂ (fun x y => f x = .ok y) xs ys) : xs.mapM f = .ok ys := by
  induction h with
  | nil => rfl
  | cons hx _ ih =>
    rw [List.mapM_cons, hx, ih]
    rfl

mutual

/-- **What is written is read back.** -/
theorem Shape.ofJson_of_writes : (s : Shape) → s.isRegular = true → {v : s.Value} → {j : Json} →
    s.Writes v j → s.ofJson j = .ok v
  | .list item, hregular, vs, _, ⟨js, rfl, hjs⟩ => by
    have hitem : ∀ v j, item.Writes v j → item.ofJson j = .ok v := fun v j h =>
      item.ofJson_of_writes hregular h
    show js.mapM item.ofJson = .ok vs
    exact mapM_eq_ok (hjs.flip.imp fun j v h => hitem v j h)
  | .optional inner, hregular, v, j, h => by
    unfold Shape.isRegular at hregular
    rw [Bool.and_eq_true, Bool.not_eq_true'] at hregular
    cases v with
    | none =>
      have hj : j = .null := h
      rw [hj]
      rfl
    | some v =>
      have hinner : inner.Writes v j := h
      have hsome : (Shape.optional inner).ofJson j = (inner.ofJson j).map some := by
        cases j with
        | null => exact absurd hinner (inner.not_writes_null hregular.1 v)
        | _ => rfl
      rw [hsome, inner.ofJson_of_writes hregular.2 hinner]
      rfl
  | .record name fields, hregular, vs, _, ⟨ms, ms', rfl, hperm, hms'⟩ => by
    obtain ⟨slots, hslots, hclose⟩ := fields.fillAll_of_writes hregular hms'
    have hnodup := fields.nodup_of_writes hregular hms'
    have hread : (Shape.record name fields).ofJson (.object ms) =
        (fields.fillAll fields.emptySlots ms).bind fields.close := rfl
    rw [hread, Fields.fillAll_perm hperm.symm hnodup hslots]
    exact hclose
  | .text, _, _, _, rfl => rfl
  | .flag _, _, _, _, rfl => rfl
  | .port, _, p, _, rfl => by
    have hrange : (0 : Int) ≤ p.toNat ∧ (p.toNat : Int) < 65536 := by
      have := p.toNat_lt
      omega
    show portOfInt p.toNat = .ok p
    unfold portOfInt
    rw [if_pos hrange, Int.toNat_natCast, UInt16.ofNat_toNat]
  | .address, _, a, _, rfl => by
    show addressOfText a.render = .ok a
    unfold addressOfText
    rw [Net.SocketAddress.parse?_render]
  | .state, _, st, _, rfl => by
    cases st <;> rfl
  | .object, _, _, _, rfl => rfl

/-- Members in the order of the record are read back. -/
theorem Fields.fillAll_of_writes : (fs : Fields) → fs.isRegular = true → {vs : fs.Values} →
    {ms : Json.Members} → fs.Writes vs ms →
      ∃ slots, fs.fillAll fs.emptySlots ms = .ok slots ∧ fs.close slots = .ok vs
  | .nil, _, _, _, rfl => ⟨(), rfl, rfl⟩
  | .cons name shape presence rest, hregular, (v, vs), ms, h => by
    unfold Fields.isRegular at hregular
    simp only [Bool.and_eq_true, Bool.not_eq_true', Bool.or_eq_true] at hregular
    obtain ⟨⟨⟨hknows, hpresence⟩, hshape⟩, hrest⟩ := hregular
    have hne : ∀ {ms : Json.Members}, rest.Writes vs ms → ∀ m ∈ ms, m.1 ≠ name := by
      intro ms hms m hm hname
      have hm := rest.knows_of_writes hms m hm
      rw [hname, hknows] at hm
      cases hm
    unfold Fields.Writes at h
    split at h
    · -- the member is left out
      rename_i hblank
      rw [Bool.and_eq_true] at hblank
      obtain ⟨slots, hslots, hclose⟩ := rest.fillAll_of_writes hrest h
      refine ⟨(none, slots), Fields.fillAll_of_ne none (hne h) hslots, ?_⟩
      have hmissing : shape.missing? presence = some v :=
        Shape.missing?_of_isBlank (by simpa [hblank.1] using hpresence) hblank.2
      unfold Fields.close
      rw [hmissing, hclose]
      rfl
    · obtain ⟨j, ms', rfl, hj, hms'⟩ := h
      obtain ⟨slots, hslots, hclose⟩ := rest.fillAll_of_writes hrest hms'
      refine ⟨(some v, slots), Fields.fillAll_cons_eq_ok.2 ⟨(some v, rest.emptySlots), ?_,
        Fields.fillAll_of_ne (some v) (hne hms') hslots⟩, ?_⟩
      · exact Fields.fill_self_eq_ok.2 ⟨rfl, v, shape.ofJson_of_writes hshape hj, rfl⟩
      · unfold Fields.close
        rw [hclose]
        rfl

end

/-! ## Messages -/

/-- Besides its message a type holds only what `bare` resets. -/
structure Faithful (α : Type) [Message α] (bare : α → α) : Prop where
  regular : (Message.shape α).isRegular = true
  ofValue_toValue : ∀ a : α, Message.ofValue (Message.toValue a) = bare a

/-- **A type of messages makes the round trip**, up to what `bare` resets: what is written is read
back, in any order; what could be read, from a value or a text, is read again when it is written; and
what differs is written differently. -/
structure RoundTrips (α : Type) [Message α] (bare : α → α) : Prop where
  decode_encode : ∀ a : α, decode α (encode a) = .ok (bare a)
  decode_of_writes : ∀ (a : α) (j : Json),
    (Message.shape α).Writes (Message.toValue a) j → decode α j = .ok (bare a)
  encode_decode : ∀ (j : Json) (a : α), decode α j = .ok a → decode α (encode a) = .ok a
  encode_decodeText : ∀ (bytes : List UInt8) (a : α),
    decodeText α bytes = .ok a → decode α (encode a) = .ok a
  encode_inj : ∀ a b : α, encode a = encode b → bare a = bare b

namespace Faithful

variable {α : Type} [Message α] {bare : α → α}

/-- **Faithful messages make the round trip.** -/
theorem roundTrips (h : Faithful α bare) : RoundTrips α bare := by
  have hwrites : ∀ (a : α) (j : Json),
      (Message.shape α).Writes (Message.toValue a) j → decode α j = .ok (bare a) := by
    intro a j hj
    unfold decode
    rw [Shape.ofJson_of_writes _ h.regular hj, ← h.ofValue_toValue a]
    rfl
  have hencode : ∀ a : α, decode α (encode a) = .ok (bare a) := fun a =>
    hwrites a _ (Shape.writes_toJson _ _)
  -- what was read holds nothing besides its message
  have hvalue : ∀ v : (Message.shape α).Value,
      decode α (encode (Message.ofValue (α := α) v)) = .ok (Message.ofValue v) := by
    intro v
    rw [hencode, ← h.ofValue_toValue, Message.toValue_ofValue]
  refine ⟨hencode, hwrites, fun j a ha => ?_, fun bytes a ha => ?_, fun a b hab => ?_⟩
  · obtain ⟨v, -, rfl⟩ := exceptMap_eq_ok.1 ha
    exact hvalue v
  · obtain ⟨v, -, rfl⟩ := exceptMap_eq_ok.1 ha
    exact hvalue v
  · have hread := hencode a
    rw [hab, hencode b] at hread
    exact (Except.ok.inj hread).symm

/-- An optional message is read as it was written. -/
theorem map_optional (h : Faithful α id) (o : Option α) :
    (o.map Message.toValue).map (Message.ofValue (α := α)) = o := by
  have hread : (Message.ofValue ∘ Message.toValue (α := α)) = id := funext h.ofValue_toValue
  rw [Option.map_map, hread, Option.map_id_fun, id]

/-- So are messages in a list. -/
theorem map_list (h : Faithful α id) (as : List α) :
    (as.map Message.toValue).map (Message.ofValue (α := α)) = as := by
  have hread : (Message.ofValue ∘ Message.toValue (α := α)) = id := funext h.ofValue_toValue
  rw [List.map_map, hread, List.map_id]

end Faithful

end Brokerage.Wire

namespace Brokerage

open Wire (Faithful RoundTrips)

/-! ## The messages of a broker -/

theorem faithful_methodSchema : Faithful MethodSchema id := ⟨rfl, fun _ => rfl⟩

theorem faithful_instanceSchemas : Faithful InstanceSchemas id where
  regular := by decide
  ofValue_toValue := fun s =>
    have hmap := faithful_methodSchema.map_optional
    congrArg₂ InstanceSchemas.mk (hmap s.create) (hmap s.update)

theorem faithful_bindingSchemas : Faithful BindingSchemas id where
  regular := by decide
  ofValue_toValue := fun s =>
    congrArg BindingSchemas.mk (faithful_methodSchema.map_optional s.create)

theorem faithful_schemas : Faithful Schemas id where
  regular := by decide
  ofValue_toValue := fun s =>
    congrArg₂ Schemas.mk (faithful_instanceSchemas.map_optional s.instances)
      (faithful_bindingSchemas.map_optional s.bindings)

theorem faithful_plan : Faithful Plan id where
  regular := by decide
  ofValue_toValue := fun p =>
    congrArg (fun schemas => { p with schemas }) (faithful_schemas.map_optional p.schemas)

theorem faithful_serviceDefinition : Faithful ServiceDefinition id where
  regular := by decide
  ofValue_toValue := fun d =>
    congrArg (fun plans => { d with plans }) (faithful_plan.map_list d.plans)

theorem faithful_catalog : Faithful Catalog id where
  regular := by decide
  ofValue_toValue := fun c =>
    congrArg Catalog.mk (faithful_serviceDefinition.map_list c.services)

theorem faithful_volumeMount : Faithful Binding.VolumeMount id := ⟨by decide, fun _ => rfl⟩

theorem faithful_bindingCreated :
    Faithful Binding.CreateResponse fun r => { r with isAsync := false, existed := false } where
  regular := by decide
  ofValue_toValue := fun r =>
    congrArg (fun volumeMounts => { r with isAsync := false, existed := false, volumeMounts })
      (faithful_volumeMount.map_list r.volumeMounts)

theorem faithful_bindingRead : Faithful Binding.GetResponse id where
  regular := by decide
  ofValue_toValue := fun r =>
    congrArg (fun volumeMounts => { r with volumeMounts })
      (faithful_volumeMount.map_list r.volumeMounts)

/-- **Every message makes the round trip.** A broker reads back the messages that it writes: catalogs
with all that is in them, what a request carries, errors, and responses, of which only the flags that
steer the status of the answer are lost. -/
theorem messages_round_trip :
    RoundTrips Catalog id ∧ RoundTrips ServiceDefinition id ∧ RoundTrips Plan id ∧
    RoundTrips Schemas id ∧ RoundTrips InstanceSchemas id ∧ RoundTrips BindingSchemas id ∧
    RoundTrips MethodSchema id ∧
    RoundTrips Instance.PreviousValues id ∧ RoundTrips Binding.BindResource id ∧
    RoundTrips Binding.VolumeMount id ∧ RoundTrips OriginatingIdentity id ∧
    RoundTrips OperationState id ∧ RoundTrips ErrorBody id ∧
    RoundTrips Instance.CreateResponse (fun r => { r with isAsync := false, existed := false }) ∧
    RoundTrips Instance.UpdateResponse (fun r => { r with isAsync := false }) ∧
    RoundTrips Instance.DeleteResponse (fun r => { r with isAsync := false }) ∧
    RoundTrips Instance.GetResponse id ∧
    RoundTrips Instance.PollResponse (fun r => { r with isDelete := false }) ∧
    RoundTrips Binding.CreateResponse (fun r => { r with isAsync := false, existed := false }) ∧
    RoundTrips Binding.DeleteResponse (fun r => { r with isAsync := false }) ∧
    RoundTrips Binding.GetResponse id ∧
    RoundTrips Binding.PollResponse (fun r => { r with isDelete := false }) := by
  refine ⟨faithful_catalog.roundTrips, faithful_serviceDefinition.roundTrips,
    faithful_plan.roundTrips, faithful_schemas.roundTrips, faithful_instanceSchemas.roundTrips,
    faithful_bindingSchemas.roundTrips, faithful_methodSchema.roundTrips, ?_, ?_,
    faithful_volumeMount.roundTrips, ?_, ?_, ?_, ?_, ?_, ?_, ?_, ?_,
    faithful_bindingCreated.roundTrips, ?_, faithful_bindingRead.roundTrips, ?_⟩
  -- the others have no messages inside
  all_goals exact Faithful.roundTrips ⟨by decide, fun _ => rfl⟩

end Brokerage
