import Brokerage.Proofs.KeptMaps
import Brokerage.Sample
import Mathlib.Logic.Relation

/-!
# Unknown members and the order of members

Platforms add members to what they send and write them in any order. A record passes over the members
that it does not know, and gives each of the others to its own slot. So neither is felt, in the record
itself or in the message around it; only objects that are kept as they are keep everything.

* `Medium.Adds`, `Wire.Moves`: **a member that the record does not know**, and **another order** of
  members of different names.
* `Medium.Extends`, `Medium.Reorders`: any number of such changes, anywhere in a message.
* `readMembers_of_adds`, `readMembers_of_moves`: neither is felt by the record it happens to.
* `alike_of_steps`: what is not felt of one change is not felt of many.
* `additions_and_order_do_not_matter`: **unknown members and the order of members**.
-/

namespace Brokerage.Wire

open Json (Document Items)

variable {T K : Type}

/-! ## Changes -/

/-- A member without a place in the record stands among its members. -/
def Medium.Adds (m : Medium T K) (fields : Fields) (ms ms' : List (K × T)) : Prop :=
  ∃ before behind key t, ms = before ++ behind ∧ ms' = before ++ (m.name key, t) :: behind ∧
    fields.knows key = false ∧ m.IsWhole t

/-- Members of different names stand in another order. -/
def Moves (_ : Fields) (ms ms' : List (K × T)) : Prop := (ms.map (·.1)).Nodup ∧ ms.Perm ms'

/-- **Members are added** that records do not know, anywhere in a message. -/
def Medium.Extends (m : Medium T K) (s : Shape) : T → T → Prop :=
  Relation.ReflTransGen (m.Within m.Adds s)

/-- **The members of records are moved**, anywhere in a message. -/
def Medium.Reorders (m : Medium T K) (s : Shape) : T → T → Prop :=
  Relation.ReflTransGen (m.Within Moves s)

/-- One member is added to an object that stands for a record. -/
theorem Medium.within_of_unknown (m : Medium T K) {name : String} {fields : Fields}
    (before behind : List (K × T)) (key : String) (t : T) (hknows : fields.knows key = false)
    (hwhole : m.IsWhole t) : m.Within m.Adds (.record name fields) (m.object (before ++ behind))
      (m.object (before ++ (m.name key, t) :: behind)) :=
  .here ⟨before, behind, key, t, rfl, rfl, hknows, hwhole⟩

/-- What a step does not change a run of steps does not. -/
theorem alike_of_steps {ε α β : Type} {valuesOnly : Bool} {Step : α → α → Prop} {f : α → Except ε β}
    (hstep : ∀ {a b}, Step a b → Alike valuesOnly (f a) (f b)) {a b : α}
    (h : Relation.ReflTransGen Step a b) : Alike valuesOnly (f a) (f b) := by
  induction h with
  | refl => exact .same _
  | tail _ hlast ih => exact ih.trans (hstep hlast)

/-! ## Additions -/

/-- A member without a place is passed over in a text if it is whole. -/
theorem Fields.fillFrom_of_unknown (room : Nat) {d : Document} {key : String}
    (hwhole : d.isWhole = true) : (fs : Fields) → (slots : fs.Slots) → fs.knows key = false →
      fs.fillFrom room slots key d = .ok slots
  | .nil, _, _ => if_pos hwhole
  | .cons name shape presence rest, (slot, slots), h => by
    obtain ⟨hname, hrest⟩ := Bool.or_eq_false_iff.1 h
    have hkey : key ≠ name := (beq_eq_false_iff_ne.1 hname).symm
    rw [fillFrom_of_ne hkey, fillFrom_of_unknown room hwhole rest slots hrest]
    rfl

/-- It is passed over in a value, whatever it is. -/
theorem Fields.fill_of_unknown {j : Json} {key : String} : (fs : Fields) → (slots : fs.Slots) →
    fs.knows key = false → fs.fill slots key j = .ok slots
  | .nil, _, _ => rfl
  | .cons name shape presence rest, (slot, slots), h => by
    obtain ⟨hname, hrest⟩ := Bool.or_eq_false_iff.1 h
    have hkey : key ≠ name := (beq_eq_false_iff_ne.1 hname).symm
    rw [fill_of_ne hkey, fill_of_unknown rest slots hrest]
    rfl

theorem readMembers_of_adds {fields : Fields} {ms ms' : List (Option String × Document)}
    (h : Medium.text.Adds fields ms ms') (room : Nat) (slots : fields.Slots) :
    readMembers (fields.fillFrom room) slots (Json.Members.Written.ofList ms) =
      readMembers (fields.fillFrom room) slots (Json.Members.Written.ofList ms') := by
  obtain ⟨before, behind, key, d, rfl, rfl, hknows, hwhole⟩ := h
  induction before generalizing slots with
  | nil =>
    -- the added member is read first and leaves the slots as they are
    have hpassed := fields.fillFrom_of_unknown room hwhole slots hknows
    simp only [List.nil_append, Medium.text, Json.Members.Written.ofList]
    rw [readMembers_cons, hpassed]
    rfl
  | cons e before ih =>
    obtain ⟨name, d'⟩ := e
    simp only [List.cons_append, Json.Members.Written.ofList]
    cases name with
    | none => rfl
    | some name =>
      rw [readMembers_cons, readMembers_cons]
      exact congrArg _ (funext ih)

theorem fillAll_of_adds {fields : Fields} {ms ms' : Json.Members}
    (h : Medium.value.Adds fields ms ms') (slots : fields.Slots) :
    fields.fillAll slots ms = fields.fillAll slots ms' := by
  obtain ⟨before, behind, key, j, rfl, rfl, hknows, -⟩ := h
  unfold Fields.fillAll
  induction before generalizing slots with
  | nil =>
    have hpassed := fields.fill_of_unknown (j := j) slots hknows
    simp only [List.nil_append, List.foldlM_cons, Medium.value, id_eq, hpassed]
    rfl
  | cons e before ih =>
    rw [List.cons_append, List.cons_append, List.foldlM_cons, List.foldlM_cons]
    exact congrArg _ (funext ih)

/-! ## Order -/

theorem readMembers_of_moves {fields : Fields} {ms ms' : List (Option String × Document)}
    (h : Moves fields ms ms') (room : Nat) (slots : fields.Slots) :
    (readMembers (fields.fillFrom room) slots (Json.Members.Written.ofList ms)).toOption =
      (readMembers (fields.fillFrom room) slots (Json.Members.Written.ofList ms')).toOption := by
  obtain ⟨hnodup, hperm⟩ := h
  rw [toOption_readMembers_ofList, toOption_readMembers_ofList]
  refine foldlM_perm ?_ hperm hnodup slots
  rintro ⟨name, d⟩ ⟨name', d'⟩ hne slots
  -- a name that is no text is refused before or behind any other member
  cases name with
  | none => cases name' <;> simp
  | some key =>
    cases name' with
    | none => simp
    | some key' => exact fields.give?_comm (fun heq => hne (congrArg some heq)) slots

/-! ## Messages -/

section Messages

variable {α : Type} [Message α] {valuesOnly : Bool} {bytes bytes' : List UInt8}

/-- Texts with trees that are read alike and the same behind them are read alike. -/
theorem alike_decodeText
    (hread : ∀ room, Alike valuesOnly ((Message.shape α).ofDocument room (Document.read bytes).1)
      ((Message.shape α).ofDocument room (Document.read bytes').1))
    (hrest : (Document.read bytes).2 = (Document.read bytes').2) :
    Alike valuesOnly (decodeText α bytes) (decodeText α bytes') ∧
      Alike valuesOnly (decodeFront α bytes) (decodeFront α bytes') := by
  have hfront : Alike valuesOnly ((Message.shape α).ofFront bytes) ((Message.shape α).ofFront bytes') :=
    hread Json.maxDepth
  unfold decodeText decodeFront
  rw [Shape.ofText_eq_bind, Shape.ofText_eq_bind, hrest]
  exact ⟨(hfront.bind fun v => .same _).map _, hfront.map _⟩

end Messages

/-- **Unknown members and the order of members do not matter**, to messages of every type. Members that
records do not know can be added anywhere, to a text or to a value: the outcome is the same, be it a
message or a fault. The members of records can be moved: the message is the same, if there is one. And
the message that was read keeps all that is written in the objects that are kept as they are, each where
it belongs: so do its parameters and its context, metadata, credentials, properties and devices. -/
theorem additions_and_order_do_not_matter :
    (∀ (α : Type) [Message α],
      (∀ bytes bytes', (Document.read bytes).2 = (Document.read bytes').2 →
        Medium.text.Extends (Message.shape α) (Document.read bytes).1 (Document.read bytes').1 →
          decodeText α bytes' = decodeText α bytes ∧ decodeFront α bytes' = decodeFront α bytes) ∧
      (∀ j j', Medium.value.Extends (Message.shape α) j j' → decode α j' = decode α j) ∧
      (∀ bytes bytes', (Document.read bytes).2 = (Document.read bytes').2 →
        Medium.text.Reorders (Message.shape α) (Document.read bytes).1 (Document.read bytes').1 →
          (decodeText α bytes').toOption = (decodeText α bytes).toOption ∧
            (decodeFront α bytes').toOption = (decodeFront α bytes).toOption) ∧
      (∀ j j', Medium.value.Reorders (Message.shape α) j j' →
        (decode α j').toOption = (decode α j).toOption) ∧
      (∀ bytes a, decodeText α bytes = .ok a ∨ decodeFront α bytes = .ok a →
        (Message.shape α).Keeps .text (Message.toValue a) (Document.read bytes).1) ∧
      ∀ j a, decode α j = .ok a → (Message.shape α).Keeps .value (Message.toValue a) j) ∧
    ∀ x ∈ keptMaps, x.IsKept := by
  refine ⟨fun α _ => ⟨?_, ?_, ?_, ?_, fun _ _ => keeps_of_decodeText, fun _ _ => keeps_of_decode⟩,
    isKept_of_mem_keptMaps⟩
  · intro bytes bytes' hrest h
    have hread : ∀ room, Alike false ((Message.shape α).ofDocument room (Document.read bytes).1)
        ((Message.shape α).ofDocument room (Document.read bytes').1) := by
      intro room
      refine alike_of_steps (fun hstep => ?_) h
      exact Medium.alike_ofDocument
        (fun hadds room slots => .of_eq (readMembers_of_adds hadds room slots)) hstep room
    obtain ⟨htext, hfront⟩ := alike_decodeText hread hrest
    exact ⟨htext.eq.symm, hfront.eq.symm⟩
  · intro j j' h
    have hread : Alike false ((Message.shape α).ofJson j) ((Message.shape α).ofJson j') := by
      refine alike_of_steps (fun hstep => ?_) h
      exact Medium.alike_ofJson (fun hadds slots => .of_eq (fillAll_of_adds hadds slots)) hstep
    exact (hread.map _).eq.symm
  · intro bytes bytes' hrest h
    have hread : ∀ room, Alike true ((Message.shape α).ofDocument room (Document.read bytes).1)
        ((Message.shape α).ofDocument room (Document.read bytes').1) := by
      intro room
      refine alike_of_steps (fun hstep => ?_) h
      exact Medium.alike_ofDocument
        (fun hmoves room slots => .of_toOption (readMembers_of_moves hmoves room slots)) hstep room
    obtain ⟨htext, hfront⟩ := alike_decodeText hread hrest
    exact ⟨htext.toOption.symm, hfront.toOption.symm⟩
  · intro j j' h
    have hread : Alike true ((Message.shape α).ofJson j) ((Message.shape α).ofJson j') := by
      refine alike_of_steps (fun hstep => ?_) h
      exact Medium.alike_ofJson
        (fun hmoves slots => .of_toOption (Fields.toOption_fillAll_perm _ hmoves.2 hmoves.1 slots))
        hstep
    exact (hread.map _).toOption.symm

end Brokerage.Wire

namespace Brokerage.Sample

open Wire

/-- The members of the text of an object. -/
def written (ms : Json.Members) : List (Option String × Json.Document) :=
  ms.map fun m => (some m.1, m.2.document)

/-- What the update of the instance is about. -/
def subject : Json.Members := [("service_id", .text service.id)]

/-- What the plan was before. -/
def formerPlan : Json.Members := [("plan_id", .text smallPlan.id)]

/-- The update of the instance. -/
def plainUpdate : Json := .object (subject ++ [("previous_values", .object formerPlan)])

/-- The update with a remark on the previous values. -/
def annotatedUpdate : Json :=
  .object (subject ++ [("previous_values", .object (formerPlan ++ [("remark", .object [])]))])

/-- The update with one more remark, at its front. -/
def remarkedUpdate : Json :=
  .object ([("remark", .array [.null])] ++ subject ++
    [("previous_values", .object (formerPlan ++ [("remark", .object [])]))])

/-- The update with its members the other way round. -/
def turnedUpdate : Json := .object ([("previous_values", .object formerPlan)] ++ subject)

/-- The remarks are added one after the other. -/
theorem plainUpdate_extends : Medium.text.Extends (Message.shape Instance.UpdateBody)
    plainUpdate.document remarkedUpdate.document := by
  have hprevious : Medium.text.Within Medium.text.Adds (Message.shape Instance.PreviousValues)
      (Json.object formerPlan).document (Json.object (formerPlan ++ [("remark", .object [])])).document :=
    Medium.text.within_of_unknown (written formerPlan) [] "remark" (.object .closed) rfl rfl
  have hinner : Medium.text.Within Medium.text.Adds (Message.shape Instance.UpdateBody)
      plainUpdate.document annotatedUpdate.document :=
    .member (written subject) [] rfl (.optional hprevious)
  have houter : Medium.text.Within Medium.text.Adds (Message.shape Instance.UpdateBody)
      annotatedUpdate.document remarkedUpdate.document :=
    Medium.text.within_of_unknown []
      (written (subject ++ [("previous_values", .object (formerPlan ++ [("remark", .object [])]))]))
      "remark" (Json.array [.null]).document rfl rfl
  exact .tail (.tail .refl hinner) houter

/-- Its members change places. -/
theorem plainUpdate_reorders : Medium.text.Reorders (Message.shape Instance.UpdateBody)
    plainUpdate.document turnedUpdate.document := by
  have hmoves : ∀ fields, Moves fields (written (subject ++ [("previous_values", .object formerPlan)]))
      (written ([("previous_values", .object formerPlan)] ++ subject)) :=
    fun fields => ⟨(by decide : [some "service_id", some "previous_values"].Nodup), .swap _ _ []⟩
  exact .single (.here (hmoves _))

/-- What the update says. -/
def update : Instance.UpdateBody where
  serviceId := service.id
  previousValues := some ⟨none, some smallPlan.id, none, none⟩

/-- Parameters that no record describes. -/
def furnishings : Json.Members := [("size", .text "large"), ("color", .null)]

/-- What creates an instance with them. -/
def furnishedCreation : Json.Members :=
  [("service_id", .text service.id), ("parameters", .object furnishings),
    ("plan_id", .text smallPlan.id)]

/-- **The update says the same** with remarks and the other way round, and what creates an instance
keeps its parameters. -/
theorem plainUpdate_is_read_alike :
    (Wire.decodeText Instance.UpdateBody plainUpdate.printBytes = .ok update ∧
      Wire.decodeText Instance.UpdateBody remarkedUpdate.printBytes = .ok update ∧
        Wire.decodeText Instance.UpdateBody turnedUpdate.printBytes = .ok update) ∧
    ∃ body, Wire.decodeText Instance.CreateBody (Json.object furnishedCreation).printBytes = .ok body ∧
      body.parameters.Perm furnishings := by
  have hplain := Json.Document.read_printBytes (j := plainUpdate) (by decide)
  have hremarked := Json.Document.read_printBytes (j := remarkedUpdate) (by decide)
  have hturned := Json.Document.read_printBytes (j := turnedUpdate) (by decide)
  have hupdate : Wire.decodeText Instance.UpdateBody plainUpdate.printBytes = .ok update := by
    unfold Wire.decodeText
    rw [Shape.ofText_of_read _ hplain]
    rfl
  obtain ⟨hadded, -, hmoved, -⟩ := additions_and_order_do_not_matter.1 Instance.UpdateBody
  refine ⟨⟨hupdate, ?_, ?_⟩, ?_⟩
  · have hsame := (hadded plainUpdate.printBytes remarkedUpdate.printBytes
      (by rw [hplain, hremarked]) (by rw [hplain, hremarked]; exact plainUpdate_extends)).1
    exact hsame.trans hupdate
  · have hsame := (hmoved plainUpdate.printBytes turnedUpdate.printBytes
      (by rw [hplain, hturned]) (by rw [hplain, hturned]; exact plainUpdate_reorders)).1
    rw [hupdate] at hsame
    exact toOption_eq_some_iff.1 hsame
  · have hread := Json.Document.read_printBytes (j := .object furnishedCreation) (by decide)
    have hbody : ∃ body,
        Wire.decodeText Instance.CreateBody (Json.object furnishedCreation).printBytes = .ok body := by
      unfold Wire.decodeText
      rw [Shape.ofText_of_read _ hread]
      exact ⟨_, rfl⟩
    obtain ⟨body, hbody⟩ := hbody
    -- the parameters are the second map of the list
    have hkept := additions_and_order_do_not_matter.2 _ (.tail _ (.head _))
    obtain ⟨members, ms, hmembers, hvalues, -, hperm⟩ :=
      hkept.text _ body (.inl hbody) (written furnishedCreation) (congrArg Prod.fst hread)
        (Json.object furnishings).document (.tail _ (.head _))
    cases hmembers
    cases hvalues
    exact ⟨body, hbody, hperm (by decide)⟩

end Brokerage.Sample
