import Brokerage.Proofs.Identity
import Brokerage.Proofs.Members
import Brokerage.Proofs.Texts
import Brokerage.Sample
import Mathlib.Data.List.Nodup

/-!
# Texts and values are read alike

A message comes as a text, or as a value that was kept when a text around it was read. A text is read in
its own order and a value in the order of its names, so what the two say of a mistake differs. But if no
object repeats a name, both accept the same messages and read the same from them.

* `Json.Document.distinct`: no object of a tree repeats a name.
* `Json.Members.sorted_perm`: members of different names are all kept.
* `Json.Document.Denotes`: how a tree and its value go together.
* `Wire.Shape.toOption_ofDocument`: **a tree is read like its value**, for every shape.
* `Wire.text_and_value_agree`: so is the text of a message of any type.
-/

namespace Brokerage

namespace Json

/-! ## Names that come once -/

/-- The names of members, in the order they are written. -/
def Members.Written.names : Members.Written → List (Option String)
  | .closed => []
  | .cut => []
  | .cons name _ rest => name :: rest.names

mutual

/-- No object of the tree repeats a name. -/
def Document.distinct : Document → Bool
  | .array items => items.distinct
  | .object members => decide members.names.Nodup && members.distinct
  | _ => true

/-- No object in the items repeats a name. -/
def Items.distinct : Items → Bool
  | .cons item rest => item.distinct && rest.distinct
  | _ => true

/-- No object in the members repeats a name. -/
def Members.Written.distinct : Members.Written → Bool
  | .cons _ value rest => value.distinct && rest.distinct
  | _ => true

end

/-- A name that is new is put among the others. -/
theorem Members.insert_perm {name : String} {ms : Members} (h : name ∉ ms.map (·.1)) (value : Json) :
    (ms.insert name value).Perm ((name, value) :: ms) := by
  induction ms with
  | nil => exact .refl _
  | cons m ms ih =>
    obtain ⟨k, v⟩ := m
    rw [List.map_cons, List.mem_cons, not_or] at h
    obtain ⟨hk, hms⟩ := h
    by_cases hlt : name < k
    · simp only [insert, if_pos hlt]
      exact .refl _
    · simp only [insert, if_neg hlt, if_neg hk]
      exact ((ih hms).cons (k, v)).trans (.swap _ _ _)

/-- **Members of different names are all kept.** -/
theorem Members.sorted_perm {ms : Members} (h : (ms.map (·.1)).Nodup) : ms.sorted.Perm ms := by
  -- by induction on the members still to come, for any that were put in order so far
  have hfold : ∀ rest acc : Members, ((acc ++ rest).map (·.1)).Nodup →
      (rest.foldl (fun ms m => ms.insert m.1 m.2) acc).Perm (acc ++ rest) := by
    intro rest
    induction rest with
    | nil => exact fun acc _ => .of_eq (List.append_nil acc).symm
    | cons m rest ih =>
      intro acc hnodup
      have hmiddle : ((m :: acc) ++ rest).Perm (acc ++ m :: rest) := List.perm_middle.symm
      have hnew := (hmiddle.map (·.1)).nodup_iff.2 hnodup
      have hfresh : m.1 ∉ acc.map (·.1) := by
        rw [List.cons_append, List.map_cons, List.map_append, List.nodup_cons] at hnew
        exact fun hmem => hnew.1 (List.mem_append_left _ hmem)
      have hinsert := (insert_perm hfresh m.2).append_right rest
      have hrest := ih (acc.insert m.1 m.2) ((hinsert.map (·.1)).nodup_iff.2 hnew)
      exact hrest.trans (hinsert.trans hmiddle)
  exact hfold ms [] h

/-! ## Trees and their values -/

/-- **A tree and its value.** -/
inductive Document.Denotes : Nat → Document → Json → Prop where
  | null {room : Nat} : Denotes room .null .null
  | bool {room : Nat} {b : Bool} : Denotes room (.bool b) (.bool b)
  | number {room : Nat} {n : Numeral} {m : Number} (h : n.number? = some m) :
    Denotes room (.numeral n) (.number m)
  | text {room : Nat} {s : String} : Denotes room (.text (some s)) (.text s)
  | array {room : Nat} {items : Items} {js : List Json} (h : items.toJson? room = some js) :
    Denotes (room + 1) (.array items) (.array js)
  | object {room : Nat} {members : Members.Written} {ms : Members}
    (h : members.toJson? room = some ms) : Denotes (room + 1) (.object members) (.object ms.sorted)

theorem Document.denotes_of_toJson? {room : Nat} {d : Document} {j : Json}
    (h : d.toJson? room = some j) : d.Denotes room j := by
  cases d with
  | null =>
    cases room <;> cases h <;> exact .null
  | bool b => cases room <;> cases h <;> exact .bool
  | numeral n =>
    have h : n.number?.map Json.number = some j := by cases room <;> exact h
    obtain ⟨m, hm, rfl⟩ := Option.map_eq_some_iff.1 h
    exact .number hm
  | text content =>
    have h : content.map Json.text = some j := by cases room <;> exact h
    obtain ⟨s, rfl, rfl⟩ := Option.map_eq_some_iff.1 h
    exact .text
  | array items =>
    cases room with
    | zero => cases h
    | succ room =>
      obtain ⟨js, hjs, rfl⟩ := Option.map_eq_some_iff.1 h
      exact .array hjs
  | object members =>
    cases room with
    | zero => cases h
    | succ room =>
      obtain ⟨ms, hms, rfl⟩ := Option.map_eq_some_iff.1 h
      exact .object hms
  | broken => cases room <;> cases h

/-- The values of items, one by one. -/
theorem Items.toJson?_cons_eq_some {room : Nat} {item : Document} {rest : Items} {js : List Json} :
    (Items.cons item rest).toJson? room = some js ↔
      ∃ j js', item.toJson? room = some j ∧ rest.toJson? room = some js' ∧ js = j :: js' := by
  simp only [Items.toJson?, Option.bind_eq_bind, Option.bind_eq_some_iff, Option.pure_def,
    Option.some.injEq]
  grind

/-- The values of members, one by one. -/
theorem Members.Written.toJson?_cons_eq_some {room : Nat} {name : Option String} {value : Document}
    {rest : Members.Written} {ms : Members} :
    (Members.Written.cons name value rest).toJson? room = some ms ↔
      ∃ key j ms', name = some key ∧ value.toJson? room = some j ∧ rest.toJson? room = some ms' ∧
        ms = (key, j) :: ms' := by
  simp only [Members.Written.toJson?, Option.bind_eq_bind, Option.bind_eq_some_iff, Option.pure_def,
    Option.some.injEq]
  grind

/-- Values have the names that are written. -/
theorem Members.Written.names_of_toJson? {room : Nat} : {members : Members.Written} → {ms : Members} →
    members.toJson? room = some ms → members.names = ms.map fun m => some m.1
  | .closed, _, h => by cases h; rfl
  | .cut, _, h => nomatch h
  | .cons name value rest, _, h => by
    obtain ⟨key, j, ms', rfl, -, hrest, rfl⟩ := toJson?_cons_eq_some.1 h
    exact congrArg (some key :: ·) (names_of_toJson? hrest)

/-- So an object that repeats no name keeps all its members. -/
theorem Members.Written.sorted_perm {room : Nat} {members : Members.Written} {ms : Members}
    (h : members.toJson? room = some ms) (hnodup : members.names.Nodup) :
    (ms.map (·.1)).Nodup ∧ ms.sorted.Perm ms := by
  have hnames := names_of_toJson? h
  have hms : (ms.map (·.1)).Nodup := by
    rw [hnames] at hnodup
    refine List.Nodup.of_map some ?_
    rwa [List.map_map]
  exact ⟨hms, Members.sorted_perm hms⟩

end Json

namespace Wire

open Json (Document Items)

/-! ## Reading a tree and reading its value -/

/-- A tree within some room whose objects repeat no name is read like its value. -/
def Shape.Agrees (s : Shape) : Prop :=
  ∀ {room : Nat} {d : Document} {j : Json}, d.toJson? room = some j → d.distinct = true →
    (s.ofDocument room d).toOption = (s.ofJson j).toOption

variable {room : Nat}

/-- The items of an array are. -/
theorem toOption_readItems {item : Shape} (h : item.Agrees) : {items : Items} → {js : List Json} →
    (place : Nat) → items.toJson? room = some js → items.distinct = true →
      (readItems (item.ofDocument room) place items).toOption = (js.mapM item.ofJson).toOption
  | .closed, _, _, hjs, _ => by cases hjs; rfl
  | .cut, _, _, hjs, _ => nomatch hjs
  | .cons d rest, _, place, hjs, hdistinct => by
    obtain ⟨j, js, hj, hrest, rfl⟩ := Items.toJson?_cons_eq_some.1 hjs
    obtain ⟨hd, hdistinct⟩ := Bool.and_eq_true_iff.1 hdistinct
    have hfirst := h hj hd
    have hmore := toOption_readItems h (place + 1) hrest hdistinct
    rw [readItems_cons, toOption_bind, toOption_mapError, hfirst, List.mapM_cons]
    refine .trans ?_ (toOption_bind _ _).symm
    refine congrArg _ (funext fun v => ?_)
    rw [toOption_map, hmore]
    exact (toOption_map (v :: ·) (js.mapM item.ofJson)).symm

/-- The members of an object are, in the order they are written. -/
theorem toOption_readMembers {fields : Fields} (h : ∀ s ∈ fields.shapes, s.Agrees) :
    {members : Json.Members.Written} → {ms : Json.Members} → (slots : fields.Slots) →
      members.toJson? room = some ms → members.distinct = true →
        (readMembers (fields.fillFrom room) slots members).toOption =
          (fields.fillAll slots ms).toOption
  | .closed, _, _, hms, _ => by cases hms; rfl
  | .cut, _, _, hms, _ => nomatch hms
  | .cons name d rest, _, slots, hms, hdistinct => by
    obtain ⟨key, j, ms, rfl, hj, hrest, rfl⟩ := Json.Members.Written.toJson?_cons_eq_some.1 hms
    obtain ⟨hd, hdistinct⟩ := Bool.and_eq_true_iff.1 hdistinct
    -- where the member has no place both pass it over: a tree with a value is whole
    have hwhole : d.isWhole = true := d.isWhole_of_value? (d.toJson?_eq_some_iff.1 hj).1
    have hfill : (fields.fillFrom room slots key d).toOption = (fields.fill slots key j).toOption := by
      rw [fields.toOption_fillFrom, fields.toOption_fill, hwhole]
      exact fields.give?_congr (fun s hs => h s hs hj hd) slots key
    unfold Fields.fillAll
    rw [readMembers_cons, toOption_bind, hfill, List.foldlM_cons]
    refine .trans ?_ (toOption_bind _ _).symm
    exact congrArg _ (funext fun slots => toOption_readMembers h slots hrest hdistinct)

/-- Members by their place are, and the same items are left behind them. -/
theorem toOption_ofDocumentItems (record : String) (size : Nat) : {fields : Fields} →
    (∀ s ∈ fields.shapes, s.Agrees) → {items : Items} → {js : List Json} → (place : Nat) →
      items.toJson? room = some js → items.distinct = true →
        ((fields.ofDocumentItems record size room place items).toOption.bind fun read =>
          (read.2.toJson? room).map (read.1, ·)) = (fields.ofItems record size place js).toOption
  | .nil, _, _, _, _, hjs, _ => congrArg (Option.map ((), ·)) hjs
  | .cons _ shape presence rest, h, .closed, [], place, hjs, _ => by
    obtain ⟨-, hshapes⟩ := List.forall_mem_cons.1 h
    have hrest := toOption_ofDocumentItems record size hshapes (place + 1) hjs rfl
    unfold Fields.ofDocumentItems Fields.ofItems
    split
    · rw [toOption_map, toOption_map, ← hrest, Option.bind_map, Option.map_bind]
      simp only [Function.comp_def, Option.map_map]
    · rfl
  | .cons _ _ _ _, _, .closed, _ :: _, _, hjs, _ => nomatch hjs
  | .cons _ _ _ _, _, .cut, _, _, hjs, _ => nomatch hjs
  | .cons _ shape presence rest, h, .cons d items, _, place, hjs, hdistinct => by
    obtain ⟨j, js, hj, hitems, rfl⟩ := Items.toJson?_cons_eq_some.1 hjs
    obtain ⟨hd, hdistinct⟩ := Bool.and_eq_true_iff.1 hdistinct
    obtain ⟨hshape, hshapes⟩ := List.forall_mem_cons.1 h
    have hrest := toOption_ofDocumentItems record size hshapes (place + 1) hitems hdistinct
    rw [ofDocumentItems_cons, ofItems_cons, toOption_bind, toOption_mapError, hshape hj hd,
      toOption_bind, Option.bind_assoc]
    refine congrArg _ (funext fun v => ?_)
    rw [toOption_map, toOption_map, ← hrest, Option.bind_map, Option.map_bind]
    simp only [Function.comp_def, Option.map_map]

/-- Only an object with one member names a state. -/
theorem toOption_stateOfJson_object {ms : Json.Members} (h : ms.length ≠ 1) :
    (stateOfJson (.object ms)).toOption = none := by
  match ms, h with
  | [], _ => rfl
  | _ :: _ :: _, _ => rfl

/-- A state is the name of a member that is null, if there is no other. -/
theorem toOption_stateOfDocument_cons (name : String) (payload : Document)
    (rest : Json.Members.Written) :
    (stateOfDocument (room + 1) (.object (.cons (some name) payload rest))).toOption =
      (stateOfText name).toOption.bind fun st =>
        match payload, rest with
        | .null, .closed => some st
        | _, _ => none := by
  simp only [stateOfDocument, Nat.succ_ne_zero, if_false]
  cases stateOfText name with
  | error e => rfl
  | ok st => cases payload <;> cases rest <;> rfl

theorem toOption_stateOfJson_single (name : String) (payload : Json) :
    (stateOfJson (.object [(name, payload)])).toOption = (stateOfText name).toOption.bind fun st =>
      match payload with
      | .null => some st
      | _ => none := by
  simp only [stateOfJson]
  cases stateOfText name with
  | error e => rfl
  | ok st => cases payload <;> rfl

/-- A state is read alike. -/
theorem Shape.agrees_state : Shape.state.Agrees := by
  intro room d j hj hdistinct
  show (stateOfDocument room d).toOption = (stateOfJson j).toOption
  cases Document.denotes_of_toJson? hj with
  | null => rfl
  | bool => rfl
  | number => rfl
  | array => rfl
  | text => exact toOption_mapError _ _
  | @object room members ms hms =>
    cases members with
    | closed =>
      cases hms
      rfl
    | cut => cases hms
    | cons name payload rest =>
      obtain ⟨key, value, ms', rfl, hvalue, hrest, rfl⟩ :=
        Json.Members.Written.toJson?_cons_eq_some.1 hms
      rw [toOption_stateOfDocument_cons]
      cases rest with
      | cut => cases hrest
      | closed =>
        cases hrest
        refine .trans ?_ (toOption_stateOfJson_single key value).symm
        cases Document.denotes_of_toJson? hvalue <;> rfl
      | cons name' payload' rest =>
        -- a second member is one too many
        obtain ⟨key', value', ms', rfl, -, -, rfl⟩ := Json.Members.Written.toJson?_cons_eq_some.1 hrest
        have hnames := of_decide_eq_true (Bool.and_eq_true_iff.1 hdistinct).1
        have hlength := (Json.Members.Written.sorted_perm hms hnames).2.length_eq
        rw [toOption_stateOfJson_object (by simp [hlength])]
        cases stateOfText key with
        | error e => rfl
        | ok st => cases payload <;> rfl

/-- **A record is read alike** if its members are. -/
theorem Shape.agrees_record {name : String} {fields : Fields} (h : ∀ s ∈ fields.shapes, s.Agrees) :
    (Shape.record name fields).Agrees := by
  intro room d j hj hdistinct
  cases Document.denotes_of_toJson? hj with
  | null => rfl
  | bool => rfl
  | number => rfl
  | text => rfl
  | @array room items js hjs =>
    rw [ofDocument_array, ofJson_array, toOption_bind, toOption_bind,
      ← toOption_ofDocumentItems name fields.size h 0 hjs hdistinct, Option.bind_assoc]
    refine congrArg _ (funext fun read => ?_)
    obtain ⟨vs, left⟩ := read
    cases left with
    | closed => rfl
    | cut => rfl
    | cons item rest =>
      -- what is left over has a first item, and so has its value
      cases hleft : (Items.cons item rest).toJson? room with
      | none => rfl
      | some js' =>
        obtain ⟨j, js', -, -, rfl⟩ := Items.toJson?_cons_eq_some.1 hleft
        rfl
  | @object room members ms hms =>
    obtain ⟨hnames, hdistinct⟩ := Bool.and_eq_true_iff.1 hdistinct
    obtain ⟨hnodup, hperm⟩ := Json.Members.Written.sorted_perm hms (of_decide_eq_true hnames)
    -- the text gives its members in its own order, the value gives the same members sorted
    rw [ofDocument_object, Fields.ofJson_object, toOption_bind, toOption_bind,
      toOption_readMembers h fields.emptySlots hms hdistinct,
      ← fields.toOption_fillAll_perm hperm.symm hnodup]
    exact congrArg _ (funext fun slots => toOption_mapError _ _)

/-- **A tree is read like its value**, whatever its shape. -/
theorem Shape.agrees (s : Shape) : s.Agrees := by
  induction s using Shape.induction with
  | text =>
    intro room d j hj _
    cases Document.denotes_of_toJson? hj <;> rfl
  | flag blank =>
    intro room d j hj _
    cases Document.denotes_of_toJson? hj <;> rfl
  | port =>
    intro room d j hj _
    cases Document.denotes_of_toJson? hj with
    | @number _ n m hm =>
      unfold Shape.ofDocument
      rw [hm]
      cases m with
      | int i => exact toOption_mapError _ _
      | float x => rfl
    | _ => rfl
  | address =>
    intro room d j hj _
    cases Document.denotes_of_toJson? hj with
    | text => exact toOption_mapError _ _
    | _ => rfl
  | state => exact Shape.agrees_state
  | object =>
    intro room d j hj _
    cases Document.denotes_of_toJson? hj with
    | object hms =>
      unfold Shape.ofDocument
      simp only [hms]
      rfl
    | _ => rfl
  | list item ih =>
    intro room d j hj hdistinct
    cases Document.denotes_of_toJson? hj with
    | array hjs => exact toOption_readItems ih 0 hjs hdistinct
    | _ => rfl
  | optional inner ih =>
    intro room d j hj hdistinct
    have hinner := congrArg (Option.map some) (ih hj hdistinct)
    rw [← toOption_map, ← toOption_map] at hinner
    cases Document.denotes_of_toJson? hj with
    | null => rfl
    | _ => exact hinner
  | record name fields ih => exact Shape.agrees_record ih

/-! ## Messages -/

/-- **Texts and values are read alike.** Where no object of a text repeats a name, the text is the message
that its value is, for messages of every type, and so are its front and the parameters it may stand for.
Only what is said of a text that is no such message may differ. -/
theorem text_and_value_agree (α : Type) [Message α] {bytes : List UInt8} {j : Json}
    (hparse : Json.parse? bytes = some j) (hdistinct : (Document.read bytes).1.distinct = true) :
    (∀ a, decodeText α bytes = .ok a ↔ decode α j = .ok a) ∧
    (∀ a, decodeFront α bytes = .ok a ↔ decode α j = .ok a) ∧
    ∀ target members, j = .object members →
      ∀ a, decodeText α bytes = .ok a ↔ Parameters.as α target members = .ok a := by
  obtain ⟨d, hread, hj⟩ := Json.read_of_parse? hparse
  rw [hread] at hdistinct
  have hdocument := congrArg (Option.map Message.ofValue) ((Message.shape α).agrees hj hdistinct)
  have hfront : (decodeFront α bytes).toOption = (decode α j).toOption := by
    unfold decodeFront decode Shape.ofFront
    rw [toOption_map, toOption_map, hread]
    exact hdocument
  have hwhole : decodeText α bytes = decodeFront α bytes := by
    unfold decodeText decodeFront Shape.ofFront
    rw [Shape.ofText_of_read _ hread, hread]
  have hsame := toOption_eq_iff.1 hfront
  rw [hwhole]
  refine ⟨hsame, hsame, ?_⟩
  rintro target members rfl a
  have hparameters : (Parameters.as α target members).toOption =
      (decode α (.object members)).toOption := by
    unfold Parameters.as
    cases decode α (.object members) <;> rfl
  rw [hsame]
  exact (toOption_eq_iff.1 hparameters a).symm

end Wire

namespace Sample

/-- An update of the instance, its members in no order: the previous values by place, the parameters by
name, and a remark that no update has. -/
def scatteredUpdate : Json :=
  .object
    [("previous_values", .array [.null, .text smallPlan.id, .null, .null]),
      ("parameters", .object [("size", .int 2), ("name", .text "main")]),
      ("remark", .array [.bool true, .object []]),
      ("service_id", .text service.id), ("plan_id", .text largePlan.id)]

/-- The same in the order of its names. -/
def orderedUpdate : Json :=
  .object
    [("parameters", .object [("name", .text "main"), ("size", .int 2)]), ("plan_id", .text largePlan.id),
      ("previous_values", .array [.null, .text smallPlan.id, .null, .null]),
      ("remark", .array [.bool true, .object []]), ("service_id", .text service.id)]

/-- The update that both are. -/
def repeatedUpdate : Instance.UpdateBody where
  serviceId := service.id
  planId := some largePlan.id
  previousValues := some ⟨none, some smallPlan.id, none, none⟩
  parameters := [("name", .text "main"), ("size", .int 2)]

/-- Its text is read as what its value is read as. -/
theorem scatteredUpdate_is_read_alike :
    Wire.decode Instance.UpdateBody orderedUpdate = .ok repeatedUpdate ∧
      Wire.decodeText Instance.UpdateBody scatteredUpdate.printBytes = .ok repeatedUpdate := by
  have hread := Json.Document.read_printBytes (j := scatteredUpdate) (by decide)
  have hparse : Json.parse? scatteredUpdate.printBytes = some orderedUpdate := by
    unfold Json.parse?
    rw [hread]
    rfl
  have hdistinct : (Json.Document.read scatteredUpdate.printBytes).1.distinct = true := by
    rw [hread]
    decide
  have hvalue : Wire.decode Instance.UpdateBody orderedUpdate = .ok repeatedUpdate := rfl
  obtain ⟨htext, -, -⟩ := Wire.text_and_value_agree Instance.UpdateBody hparse hdistinct
  exact ⟨hvalue, (htext repeatedUpdate).2 hvalue⟩

end Sample

end Brokerage
