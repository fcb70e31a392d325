import Brokerage.Answer
import Brokerage.Proofs.Kept

/-!
# The maps that messages keep

Most objects of a message stand for records and lose what they do not know. Parameters, contexts,
metadata, credentials, properties and devices are maps of which nothing is known, and a message holds
them as they were written.

* `keeps_of_decode`, `keeps_of_decodeText`: **a message keeps what it was read from**, each part where
  the message holds it.
* `Shape.member?`, `Shape.keeps_member`: the value of a member keeps what is written in the member.
* `KeptMap`, `keptMaps`: the maps of all messages, by type and name.
* `isKept_of_mem_keptMaps`: **each of them is kept.**
-/

namespace Brokerage.Wire

open Json (Document)

/-! ## Messages -/

section

variable {α : Type} [Message α] {a : α}

/-- A text that is a message as a whole is one at its front. -/
theorem decodeFront_of_decodeText {bytes : List UInt8} (h : decodeText α bytes = .ok a) :
    decodeFront α bytes = .ok a := by
  obtain ⟨v, hv, rfl⟩ := exceptMap_eq_ok.1 h
  rw [Shape.ofText_eq_bind] at hv
  obtain ⟨v', hfront, hrest⟩ := exceptBind_eq_ok.1 hv
  split at hrest
  · cases hrest
    exact exceptMap_eq_ok.2 ⟨v, hfront, rfl⟩
  · cases hrest

/-- **A message that was read from a text keeps what is written.** -/
theorem keeps_of_decodeText {bytes : List UInt8}
    (h : decodeText α bytes = .ok a ∨ decodeFront α bytes = .ok a) :
    (Message.shape α).Keeps .text (Message.toValue a) (Document.read bytes).1 := by
  have hfront : decodeFront α bytes = .ok a := h.elim decodeFront_of_decodeText id
  obtain ⟨v, hv, rfl⟩ := exceptMap_eq_ok.1 hfront
  rw [Message.toValue_ofValue]
  exact (Message.shape α).keeps_ofDocument hv

/-- So does one that was read from a value. -/
theorem keeps_of_decode {j : Json} (h : decode α j = .ok a) :
    (Message.shape α).Keeps .value (Message.toValue a) j := by
  obtain ⟨v, hv, rfl⟩ := exceptMap_eq_ok.1 h
  rw [Message.toValue_ofValue]
  exact (Message.shape α).keeps_ofJson hv

end

/-! ## Members of a message -/

/-- The value of the member of a name, with its shape. -/
def Fields.member? (key : String) : (fs : Fields) → fs.Values → Option ((s : Shape) × s.Value)
  | .nil, _ => none
  | .cons name shape _ rest, (v, vs) => if key = name then some ⟨shape, v⟩ else rest.member? key vs

/-- The value of a member, where a value has members. -/
def Shape.member? (key : String) : (s : Shape) → s.Value → Option ((s : Shape) × s.Value)
  | .record _ fields, vs => fields.member? key vs
  | _, _ => none

section

variable {T K : Type} {m : Keeper T K} {key : String} {inner : Shape} {v : inner.Value} {t : T}

theorem Fields.keeps_member (hname : Function.Injective m.name) : (fs : Fields) → {vs : fs.Values} →
    fs.member? key vs = some ⟨inner, v⟩ → fs.MemberKeeps m vs (m.name key) t → inner.Keeps m v t
  | .nil, _, h, _ => nomatch h
  | .cons name shape presence rest, (w, ws), h, ⟨hself, hother⟩ => by
    unfold member? at h
    split at h
    · rename_i heq
      cases h
      exact hself (congrArg m.name heq)
    · rename_i hne
      exact keeps_member hname rest h (hother fun heq => hne (hname heq))

/-- **The value of a member keeps what is written in it**, where names and objects can be told apart. -/
theorem Shape.keeps_member (hname : Function.Injective m.name) (hobject : Function.Injective m.object)
    (harray : ∀ ms ts, m.object ms ≠ m.array ts) {s : Shape} {w : s.Value}
    (hmember : s.member? key w = some ⟨inner, v⟩) {ms : List (K × T)} (h : s.Keeps m w (m.object ms))
    (ht : (m.name key, t) ∈ ms) : inner.Keeps m v t := by
  cases s with
  | record name fields =>
    obtain ⟨ms', hms, hkeeps⟩ | ⟨ts, hts, -⟩ := h
    · obtain rfl := hobject hms
      exact fields.keeps_member hname hmember (hkeeps _ ht)
    · exact absurd hts (harray ms ts)
  | _ => cases hmember

end

theorem ofList_injective : Function.Injective Json.Members.Written.ofList := by
  intro ms ms' h
  induction ms generalizing ms' with
  | nil =>
    cases ms' with
    | nil => rfl
    | cons e ms' => cases h
  | cons e ms ih =>
    cases ms' with
    | nil => cases h
    | cons e' ms' =>
      obtain ⟨hname, hd, hrest⟩ := Json.Members.Written.cons.inj h
      rw [ih hrest, Prod.ext hname hd]

/-! ## The maps -/

/-- A map that messages of a type hold, if there is one: under which name it is written. -/
structure KeptMap where
  α : Type
  [message : Message α]
  name : String
  map? : α → Option Json.Members

attribute [instance] KeptMap.message

/-- **The map is kept**: whatever a message is read from, the map holds what is written under its
name, and is missing only where null is written. -/
structure KeptMap.IsKept (x : KeptMap) : Prop where
  text : ∀ bytes a, decodeText x.α bytes = .ok a ∨ decodeFront x.α bytes = .ok a →
    ∀ ms, (Document.read bytes).1 = Keeper.text.object ms → ∀ d, (some x.name, d) ∈ ms →
      (Shape.optional .object).Keeps .text (x.map? a) d
  value : ∀ ms a, decode x.α (.object ms) = .ok a → ∀ j, (x.name, j) ∈ ms →
    (Shape.optional .object).Keeps .value (x.map? a) j

/-- The maps of all messages. -/
def keptMaps : List KeptMap :=
  [⟨Instance.CreateBody, "context", (·.context)⟩,
    ⟨Instance.CreateBody, "parameters", fun b => some b.parameters⟩,
    ⟨Instance.UpdateBody, "context", (·.context)⟩,
    ⟨Instance.UpdateBody, "parameters", fun b => some b.parameters⟩,
    ⟨Binding.CreateBody, "context", (·.context)⟩,
    ⟨Binding.CreateBody, "parameters", fun b => some b.parameters⟩,
    ⟨OriginatingIdentity, "properties", fun i => some i.properties⟩,
    ⟨MethodSchema, "parameters", fun s => some s.parameters⟩,
    ⟨Plan, "metadata", fun p => some p.metadata⟩,
    ⟨ServiceDefinition, "metadata", fun d => some d.metadata⟩,
    ⟨Instance.CreateResponse, "metadata", (·.metadata)⟩,
    ⟨Instance.GetResponse, "parameters", (·.parameters)⟩,
    ⟨Binding.VolumeMount, "device", fun v => some v.device⟩,
    ⟨Binding.CreateResponse, "credentials", (·.credentials)⟩,
    ⟨Binding.GetResponse, "credentials", (·.credentials)⟩,
    ⟨Binding.GetResponse, "parameters", (·.parameters)⟩]

/-- A map is kept if the message holds it as the value of its member. -/
theorem KeptMap.isKept_of_member {x : KeptMap}
    (hmember : ∀ a : x.α, (Message.shape x.α).member? x.name (Message.toValue a) =
        some ⟨.optional .object, x.map? a⟩ ∨
      ∃ kept, x.map? a = some kept ∧
        (Message.shape x.α).member? x.name (Message.toValue a) = some ⟨.object, kept⟩) :
    x.IsKept where
  text bytes a ha ms hms d hd := by
    have hkeeps := keeps_of_decodeText ha
    rw [hms] at hkeeps
    have hobject : Function.Injective Keeper.text.object := fun _ _ h =>
      ofList_injective (Document.object.inj h)
    obtain hmap | ⟨kept, hkept, hmap⟩ := hmember a
    · exact Shape.keeps_member (Option.some_injective _) hobject nofun hmap hkeeps hd
    · have hd : Shape.object.Keeps .text kept d :=
        Shape.keeps_member (Option.some_injective _) hobject nofun hmap hkeeps hd
      rw [hkept]
      exact hd
  value ms a ha j hj := by
    have hkeeps := keeps_of_decode ha
    have hobject : Function.Injective Keeper.value.object := fun _ _ h => Json.object.inj h
    obtain hmap | ⟨kept, hkept, hmap⟩ := hmember a
    · exact Shape.keeps_member Function.injective_id hobject nofun hmap hkeeps hj
    · have hj : Shape.object.Keeps .value kept j :=
        Shape.keeps_member Function.injective_id hobject nofun hmap hkeeps hj
      rw [hkept]
      exact hj

/-- **Every map is kept.** -/
theorem isKept_of_mem_keptMaps : ∀ x ∈ keptMaps, x.IsKept := by
  unfold keptMaps
  repeat' refine List.forall_mem_cons.2 ⟨KeptMap.isKept_of_member fun a => ?_, ?_⟩
  -- a message holds a map or may lack it
  all_goals first
    | exact .inl rfl
    | exact .inr ⟨_, rfl, rfl⟩
    | exact nofun

end Brokerage.Wire
