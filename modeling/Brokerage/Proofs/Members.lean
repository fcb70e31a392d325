import Brokerage.Wire.OfText
import Mathlib.Data.List.Perm.Basic

/-!
# Reading members

A record is read from a value and from a text by two readers, which differ in what they say of what they
refuse. Where only the value counts, both give a member to the first slot of its name, and members of
different names can be given in either order.

* `Wire.toOption_eq_iff`: what was read, if anything was.
* `readItems_cons` and its siblings: what one item or member does to a reader.
* `Shape.induction`: induction over shapes, a record standing on the shapes of its members.
* `Fields.give?`: a member is given its value, however that is read; `toOption_fill` and
  `toOption_fillFrom` find it in both readers.
* `Fields.give?_comm`, `Fields.toOption_fillAll_perm`: **the order of members does not matter**.
-/

namespace Brokerage.Wire

open Json (Document)

/-! ## What was read -/

section ToOption

variable {ε ε' α β σ : Type}

theorem toOption_map (f : α → β) (x : Except ε α) : (x.map f).toOption = x.toOption.map f := by
  cases x <;> rfl

theorem toOption_mapError (f : ε → ε') (x : Except ε α) : (x.mapError f).toOption = x.toOption := by
  cases x <;> rfl

theorem toOption_bind (x : Except ε α) (f : α → Except ε β) :
    (x.bind f).toOption = x.toOption.bind fun a => (f a).toOption := by
  cases x <;> rfl

theorem toOption_eq_some_iff {x : Except ε α} {a : α} : x.toOption = some a ↔ x = .ok a := by
  cases x <;> simp [Except.toOption]

/-- **Two results hold the same value, or neither holds one.** -/
theorem toOption_eq_iff {x : Except ε α} {y : Except ε' α} :
    x.toOption = y.toOption ↔ ∀ a, x = .ok a ↔ y = .ok a := by
  simp only [← toOption_eq_some_iff]
  exact Option.ext_iff

/-- Steps that hold the same values lead to the same end. -/
theorem toOption_foldlM {f : σ → α → Except ε σ} {g : σ → α → Option σ} {xs : List α}
    (h : ∀ x ∈ xs, ∀ s, (f s x).toOption = g s x) (s : σ) : (xs.foldlM f s).toOption = xs.foldlM g s := by
  induction xs generalizing s with
  | nil => rfl
  | cons x xs ih =>
    obtain ⟨hx, hxs⟩ := List.forall_mem_cons.1 h
    have hbind := toOption_bind (f s x) fun s => xs.foldlM f s
    rw [List.foldlM_cons, List.foldlM_cons]
    refine hbind.trans ?_
    rw [hx]
    exact congrArg _ (funext fun s => ih hxs s)

end ToOption

/-! ## Item by item and member by member -/

section Steps

variable {α σ : Type} {room place size : Nat} {record name : String} {shape : Shape}
  {presence : Presence} {rest : Fields}

theorem readItems_cons (item : Document → Except Fault α) (d : Document) (items : Json.Items) :
    readItems item place (.cons d items) = ((item d).mapError (·.under (.item place))).bind fun v =>
      (readItems item (place + 1) items).map (v :: ·) := by
  conv_lhs => unfold readItems
  cases item d <;> rfl

theorem readMembers_cons (member : σ → String → Document → Except Fault σ) (slots : σ) (key : String)
    (d : Document) (members : Json.Members.Written) :
    readMembers member slots (.cons (some key) d members) = (member slots key d).bind fun slots =>
      readMembers member slots members := by
  conv_lhs => unfold readMembers
  cases member slots key d <;> rfl

theorem ofDocumentItems_cons (d : Document) (items : Json.Items) :
    (Fields.cons name shape presence rest).ofDocumentItems record size room place (.cons d items) =
      ((shape.ofDocument room d).mapError (·.under (.item place))).bind fun v =>
        (rest.ofDocumentItems record size room (place + 1) items).map
          fun (vs, left) => ((v, vs), left) := by
  conv_lhs => unfold Fields.ofDocumentItems
  cases shape.ofDocument room d <;> rfl

theorem Fields.fillFrom_self {key : String} (h : key = name) (slot : Option shape.Value)
    (slots : rest.Slots) (d : Document) :
    (Fields.cons name shape presence rest).fillFrom room (slot, slots) key d =
      if slot.isSome then .error (.here (.duplicate name))
      else ((shape.ofDocument room d).mapError (·.under (.member name))).map
        fun v => (some v, slots) := by
  unfold Fields.fillFrom
  rw [if_pos h]
  cases shape.ofDocument room d <;> rfl

theorem Fields.fillFrom_of_ne {key : String} (h : key ≠ name) (slot : Option shape.Value)
    (slots : rest.Slots) (d : Document) :
    (Fields.cons name shape presence rest).fillFrom room (slot, slots) key d =
      (rest.fillFrom room slots key d).map fun slots => (slot, slots) := by
  conv_lhs => unfold Fields.fillFrom
  rw [if_neg h]

theorem Fields.fill_self {key : String} (h : key = name) (slot : Option shape.Value)
    (slots : rest.Slots) (j : Json) :
    (Fields.cons name shape presence rest).fill (slot, slots) key j =
      if slot.isSome then .error (.duplicate name)
      else (shape.ofJson j).map fun v => (some v, slots) :=
  if_pos h

/-- A member of another name leaves the first slot alone. -/
theorem Fields.fill_of_ne {key : String} (h : key ≠ name) (slot : Option shape.Value)
    (slots : rest.Slots) (j : Json) :
    (Fields.cons name shape presence rest).fill (slot, slots) key j =
      (rest.fill slots key j).map fun slots => (slot, slots) :=
  if_neg h

theorem ofItems_cons (j : Json) (js : List Json) :
    (Fields.cons name shape presence rest).ofItems record size place (j :: js) =
      (shape.ofJson j).bind fun v =>
        (rest.ofItems record size (place + 1) js).map fun (vs, left) => ((v, vs), left) := by
  conv_lhs => unfold Fields.ofItems
  cases shape.ofJson j <;> rfl

/-- A record that comes as an array has nothing left behind its members. -/
theorem ofDocument_array (items : Json.Items) {fields : Fields} :
    (Shape.record record fields).ofDocument (room + 1) (.array items) =
      (fields.ofDocumentItems record fields.size room 0 items).bind fun read =>
        match read.2 with
        | .closed => .ok read.1
        | _ => .error .syntaxError := by
  rw [Shape.ofDocument]
  cases fields.ofDocumentItems record fields.size room 0 items with
  | error e => rfl
  | ok read =>
    obtain ⟨vs, left⟩ := read
    cases left <;> rfl

theorem ofDocument_object (members : Json.Members.Written) {fields : Fields} :
    (Shape.record record fields).ofDocument (room + 1) (.object members) =
      (readMembers (fields.fillFrom room) fields.emptySlots members).bind
        fun slots => located (fields.close slots) := by
  rw [Shape.ofDocument]

theorem ofJson_array (js : List Json) {fields : Fields} :
    (Shape.record record fields).ofJson (.array js) =
      (fields.ofItems record fields.size 0 js).bind fun read =>
        match read.2 with
        | [] => .ok read.1
        | _ :: _ => .error (.tooLong js.length) := by
  rw [Shape.ofJson]
  cases fields.ofItems record fields.size 0 js with
  | error e => rfl
  | ok read =>
    obtain ⟨vs, left⟩ := read
    cases left <;> rfl

end Steps

/-! ## Shapes -/

/-- The shapes of the members of a record. -/
def Fields.shapes : Fields → List Shape
  | .nil => []
  | .cons _ shape _ rest => shape :: rest.shapes

/-- **Induction over shapes**, a record standing on the shapes of its members. -/
theorem Shape.induction {P : Shape → Prop} (text : P .text) (flag : ∀ blank, P (.flag blank))
    (port : P .port) (address : P .address) (state : P .state) (object : P .object)
    (list : ∀ item, P item → P (.list item)) (optional : ∀ inner, P inner → P (.optional inner))
    (record : ∀ name fields, (∀ s ∈ fields.shapes, P s) → P (.record name fields)) (s : Shape) : P s :=
  @Shape.rec P (fun fields => ∀ s ∈ fields.shapes, P s) text flag port address state object list optional
    record nofun (fun _ _ _ _ hshape hrest => List.forall_mem_cons.2 ⟨hshape, hrest⟩) s

/-! ## One member -/

namespace Fields

variable {key key' : String} {whole whole' : Bool} {read read' : (s : Shape) → Option s.Value}

/-- Gives a member the value that is read for its shape. One without a place has to be whole. -/
def give? (whole : Bool) (read : (s : Shape) → Option s.Value) :
    (fs : Fields) → fs.Slots → String → Option fs.Slots
  | .nil, slots, _ => if whole then some slots else none
  | .cons name shape _ rest, (slot, slots), key =>
    if key = name then
      if slot.isSome then none else (read shape).map fun v => (some v, slots)
    else (rest.give? whole read slots key).map fun slots => (slot, slots)

/-- Only the shapes of the record are read. -/
theorem give?_congr : (fs : Fields) → (∀ s ∈ fs.shapes, read s = read' s) → (slots : fs.Slots) →
    (key : String) → fs.give? whole read slots key = fs.give? whole read' slots key
  | .nil, _, _, _ => rfl
  | .cons name shape _ rest, h, (slot, slots), key => by
    obtain ⟨hshape, hrest⟩ := List.forall_mem_cons.1 h
    unfold give?
    rw [hshape, give?_congr rest hrest]

/-- A member of an object is given its value. -/
theorem toOption_fill (j : Json) : (fs : Fields) → (slots : fs.Slots) → (key : String) →
    (fs.fill slots key j).toOption = fs.give? true (fun s => (s.ofJson j).toOption) slots key
  | .nil, _, _ => rfl
  | .cons name shape _ rest, (slot, slots), key => by
    unfold fill give?
    split
    · split
      · rfl
      · exact toOption_map _ _
    · rw [toOption_map, toOption_fill j rest]

/-- **So is a member of a document.** -/
theorem toOption_fillFrom (room : Nat) (d : Document) : (fs : Fields) → (slots : fs.Slots) →
    (key : String) → (fs.fillFrom room slots key d).toOption =
      fs.give? d.isWhole (fun s => (s.ofDocument room d).toOption) slots key
  | .nil, _, _ => by
    unfold fillFrom give?
    split <;> rfl
  | .cons name shape _ rest, (slot, slots), key => by
    unfold fillFrom give?
    split
    · split
      · rfl
      · cases shape.ofDocument room d <;> rfl
    · rw [toOption_map, toOption_fillFrom room d rest]

section Cons

variable {name : String} {shape : Shape} {presence : Presence} {rest : Fields}

theorem give?_self (slot : Option shape.Value) (slots : rest.Slots) :
    (Fields.cons name shape presence rest).give? whole read (slot, slots) name =
      if slot.isSome then none else (read shape).map fun v => (some v, slots) :=
  if_pos rfl

/-- A member of another name leaves the first slot alone. -/
theorem give?_of_ne (h : key ≠ name) (slot : Option shape.Value) (slots : rest.Slots) :
    (Fields.cons name shape presence rest).give? whole read (slot, slots) key =
      (rest.give? whole read slots key).map fun slots => (slot, slots) :=
  if_neg h

/-- The first slot takes one member and its neighbours take another, in either order. -/
theorem give?_self_comm (h : key ≠ name) (slot : Option shape.Value) (slots : rest.Slots) :
    (((Fields.cons name shape presence rest).give? whole read (slot, slots) name).bind fun slots =>
        (Fields.cons name shape presence rest).give? whole' read' slots key) =
      ((Fields.cons name shape presence rest).give? whole' read' (slot, slots) key).bind fun slots =>
        (Fields.cons name shape presence rest).give? whole read slots name := by
  rw [give?_self, give?_of_ne h]
  cases slot with
  | some v => cases rest.give? whole' read' slots key <;> simp [give?_self]
  | none =>
    cases hread : read shape <;> cases hrest : rest.give? whole' read' slots key <;>
      simp [give?_self, give?_of_ne h, hread, hrest]

end Cons

/-- **Members of different names can be given in either order.** -/
theorem give?_comm (hkeys : key ≠ key') : (fs : Fields) → (slots : fs.Slots) →
    ((fs.give? whole read slots key).bind fun slots => fs.give? whole' read' slots key') =
      (fs.give? whole' read' slots key').bind fun slots => fs.give? whole read slots key
  | .nil, _ => by cases whole <;> cases whole' <;> rfl
  | .cons name shape presence rest, (slot, slots) => by
    by_cases hkey : key = name
    · subst hkey
      exact give?_self_comm hkeys.symm slot slots
    by_cases hkey' : key' = name
    · subst hkey'
      exact (give?_self_comm hkeys slot slots).symm
    · -- neither is for the first slot
      have hrest := congrArg (Option.map fun slots => (slot, slots)) (give?_comm hkeys rest slots)
      simp only [Option.map_bind] at hrest
      rw [give?_of_ne hkey, give?_of_ne hkey', Option.bind_map, Option.bind_map]
      simpa only [Function.comp_def, give?_of_ne hkey, give?_of_ne hkey'] using hrest

end Fields

/-- Steps that commute for different keys can be taken in any order. -/
theorem foldlM_perm {σ α κ : Type} {step : σ → α → Option σ} {keyOf : α → κ}
    (hcomm : ∀ a b, keyOf a ≠ keyOf b → ∀ s,
      ((step s a).bind fun s => step s b) = (step s b).bind fun s => step s a)
    {xs ys : List α} (hperm : xs.Perm ys) (hnodup : (xs.map keyOf).Nodup) (s : σ) :
    xs.foldlM step s = ys.foldlM step s := by
  induction hperm generalizing s with
  | nil => rfl
  | cons x _ ih =>
    have hrest := (List.nodup_cons.1 hnodup).2
    rw [List.foldlM_cons, List.foldlM_cons]
    exact congrArg _ (funext fun s => ih hrest s)
  | swap x y xs =>
    have hne : keyOf y ≠ keyOf x := fun heq =>
      (List.nodup_cons.1 hnodup).1 (List.mem_cons.2 (.inl heq))
    have hswap := congrArg (Option.bind · fun s => xs.foldlM step s) (hcomm y x hne s)
    simpa only [List.foldlM_cons, Option.bind_eq_bind, Option.bind_assoc] using hswap
  | trans hperm₁ _ ih₁ ih₂ =>
    have hmiddle := (hperm₁.map keyOf).nodup_iff.1 hnodup
    rw [ih₁ hnodup, ih₂ hmiddle]

/-! ## The members of a value -/

namespace Fields

/-- Gives members their values in turn. -/
def fillAll (fs : Fields) (slots : fs.Slots) (ms : Json.Members) : Except Issue fs.Slots :=
  ms.foldlM (fun slots (k, v) => fs.fill slots k v) slots

theorem toOption_fillAll (fs : Fields) (slots : fs.Slots) (ms : Json.Members) :
    (fs.fillAll slots ms).toOption =
      ms.foldlM (fun slots m => fs.give? true (fun s => (s.ofJson m.2).toOption) slots m.1) slots :=
  toOption_foldlM (fun m _ slots => fs.toOption_fill m.2 slots m.1) slots

/-- A record is read by giving it the members of an object. -/
theorem ofJson_object (name : String) (fields : Fields) (ms : Json.Members) :
    (Shape.record name fields).ofJson (.object ms) =
      (fields.fillAll fields.emptySlots ms).bind fields.close := by
  rw [Shape.ofJson]
  rfl

/-- **The order of members does not matter** if none comes twice. -/
theorem toOption_fillAll_perm (fs : Fields) {ms ms' : Json.Members} (hperm : ms.Perm ms')
    (hnodup : (ms.map (·.1)).Nodup) (slots : fs.Slots) :
    (fs.fillAll slots ms).toOption = (fs.fillAll slots ms').toOption := by
  rw [toOption_fillAll, toOption_fillAll]
  exact foldlM_perm (fun m m' hne => fs.give?_comm hne) hperm hnodup slots

end Fields

end Brokerage.Wire
