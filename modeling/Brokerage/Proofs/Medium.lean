import Brokerage.Proofs.Members

/-!
# Changes inside a message

A message is read from a text or from a value. Records stand in it as objects or as arrays, inside lists,
where something may be missing, and inside other records. A change to the members of one record is a
change to the message; whether it is felt outside depends only on whether the record is read otherwise.

* `Wire.Medium`: what a message is read from: `Medium.text` and `Medium.value`.
* `Medium.Within`: **a change to the members of one object that stands for a record**, somewhere inside.
* `Wire.Alike`: two results are the same, or both are faults where only values count.
* `Medium.alike_ofDocument`, `Medium.alike_ofJson`: **what is not felt by the record is not felt by the
  message**.
-/

namespace Brokerage

/-! ## Arrays and objects that come to their end -/

namespace Json

/-- The items of an array. -/
def Items.ofList : List Document → Items
  | [] => .closed
  | d :: ds => .cons d (ofList ds)

/-- The members of an object. -/
def Members.Written.ofList : List (Option String × Document) → Members.Written
  | [] => .closed
  | (name, d) :: ms => .cons name d (ofList ms)

end Json

namespace Wire

open Json (Document Items)

variable {ε ε' α β T K : Type}

/-! ## Media -/

/-- **What messages are read from**, and how it is put together. -/
structure Medium (T K : Type) where
  null : T
  array : List T → T
  object : List (K × T) → T
  /-- The name of a member. -/
  name : String → K
  /-- What is passed over where it has no place. -/
  IsWhole : T → Prop

/-- The trees of texts. -/
def Medium.text : Medium Document (Option String) where
  null := .null
  array ds := .array (Items.ofList ds)
  object ms := .object (Json.Members.Written.ofList ms)
  name := some
  IsWhole d := d.isWhole = true

/-- Values. -/
def Medium.value : Medium Json String where
  null := .null
  array := .array
  object := .object
  name := id
  IsWhole _ := True

/-! ## Places inside a message -/

/-- The shape of the member of a name. -/
def Fields.shape? (key : String) : Fields → Option Shape
  | .nil => none
  | .cons name shape _ rest => if key = name then some shape else rest.shape? key

/-- The shape of the member at a place. -/
def Fields.shapeAt? : Fields → Nat → Option Shape
  | .nil, _ => none
  | .cons _ shape _ _, 0 => some shape
  | .cons _ _ _ rest, i + 1 => rest.shapeAt? i

/-- **A change to the members of one object that stands for a record**, somewhere inside a message. -/
inductive Medium.Within (m : Medium T K) (Change : Fields → List (K × T) → List (K × T) → Prop) :
    Shape → T → T → Prop where
  | here {name : String} {fields : Fields} {ms ms' : List (K × T)} (h : Change fields ms ms') :
    Within m Change (.record name fields) (m.object ms) (m.object ms')
  | member {name key : String} {fields : Fields} {shape : Shape} {t t' : T}
    (before behind : List (K × T)) (hshape : fields.shape? key = some shape)
    (h : Within m Change shape t t') :
    Within m Change (.record name fields) (m.object (before ++ (m.name key, t) :: behind))
      (m.object (before ++ (m.name key, t') :: behind))
  | place {name : String} {fields : Fields} {shape : Shape} {t t' : T} (before behind : List T)
    (hshape : fields.shapeAt? before.length = some shape) (h : Within m Change shape t t') :
    Within m Change (.record name fields) (m.array (before ++ t :: behind))
      (m.array (before ++ t' :: behind))
  | item {item : Shape} {t t' : T} (before behind : List T) (h : Within m Change item t t') :
    Within m Change (.list item) (m.array (before ++ t :: behind)) (m.array (before ++ t' :: behind))
  | optional {inner : Shape} {t t' : T} (h : Within m Change inner t t') :
    Within m Change (.optional inner) t t'

/-! ## Results that are alike -/

/-- **Two results are alike**: they are the same, or both are faults and only values count. -/
inductive Alike (valuesOnly : Bool) : Except ε α → Except ε α → Prop where
  | same (x : Except ε α) : Alike valuesOnly x x
  | faults (h : valuesOnly = true) (e e' : ε) : Alike valuesOnly (.error e) (.error e')

namespace Alike

variable {valuesOnly : Bool} {x y : Except ε α}

theorem eq (h : Alike false x y) : x = y := by
  cases h with
  | same => rfl
  | faults h => cases h

theorem toOption (h : Alike true x y) : x.toOption = y.toOption := by
  cases h <;> rfl

theorem of_eq (h : x = y) : Alike valuesOnly x y := h ▸ .same x

theorem of_toOption (h : x.toOption = y.toOption) : Alike true x y := by
  cases x with
  | error e =>
    cases y with
    | error e' => exact .faults rfl e e'
    | ok b => cases h
  | ok a =>
    cases y with
    | error e' => cases h
    | ok b =>
      cases h
      exact .same _

theorem trans {z : Except ε α} (h : Alike valuesOnly x y) (h' : Alike valuesOnly y z) :
    Alike valuesOnly x z := by
  cases h with
  | same => exact h'
  | faults h e e' =>
    cases h' with
    | same => exact .faults h e e'
    | faults _ _ e'' => exact .faults h e e''

/-- Going on in ways that are alike keeps results alike. -/
theorem bind {f g : α → Except ε β} (h : Alike valuesOnly x y)
    (hf : ∀ a, Alike valuesOnly (f a) (g a)) : Alike valuesOnly (x.bind f) (y.bind g) := by
  cases h with
  | same =>
    cases x with
    | error e => exact .same _
    | ok a => exact hf a
  | faults h e e' => exact .faults h e e'

theorem map (h : Alike valuesOnly x y) (f : α → β) : Alike valuesOnly (x.map f) (y.map f) := by
  cases h with
  | same => exact .same _
  | faults h e e' => exact .faults h e e'

theorem mapError (h : Alike valuesOnly x y) (f : ε → ε') :
    Alike valuesOnly (x.mapError f) (y.mapError f) := by
  cases h with
  | same => exact .same _
  | faults h e e' => exact .faults h _ _

end Alike

/-! ## Reading documents -/

section Documents

variable {valuesOnly : Bool} {room : Nat}

/-- **The members of an object are given in turn**, unless a name is no text. -/
theorem toOption_readMembers_ofList (fields : Fields) (slots : fields.Slots)
    (ms : List (Option String × Document)) :
    (readMembers (fields.fillFrom room) slots (Json.Members.Written.ofList ms)).toOption =
      ms.foldlM (fun slots e => e.1.bind fun key =>
        fields.give? e.2.isWhole (fun s => (s.ofDocument room e.2).toOption) slots key) slots := by
  induction ms generalizing slots with
  | nil => rfl
  | cons e ms ih =>
    obtain ⟨name, d⟩ := e
    rw [Json.Members.Written.ofList, List.foldlM_cons]
    cases name with
    | none => rfl
    | some key =>
      rw [readMembers_cons, toOption_bind, fields.toOption_fillFrom]
      exact congrArg _ (funext ih)

/-- One item of an array. -/
theorem alike_readItems {item : Document → Except Fault α} {d d' : Document}
    (h : Alike valuesOnly (item d) (item d')) (before behind : List Document) (place : Nat) :
    Alike valuesOnly (readItems item place (Items.ofList (before ++ d :: behind)))
      (readItems item place (Items.ofList (before ++ d' :: behind))) := by
  induction before generalizing place with
  | nil =>
    simp only [List.nil_append, Items.ofList, readItems_cons]
    exact (h.mapError _).bind fun v => .same _
  | cons first before ih =>
    simp only [List.cons_append, Items.ofList, readItems_cons]
    exact (Alike.same _).bind fun v => (ih (place + 1)).map _

/-- One item that stands at the place of a member. -/
theorem alike_ofDocumentItems {shape : Shape} {d d' : Document} (record : String) (size : Nat)
    (h : Alike valuesOnly (shape.ofDocument room d) (shape.ofDocument room d'))
    (behind : List Document) : (before : List Document) → (fields : Fields) → (place : Nat) →
      fields.shapeAt? before.length = some shape →
        Alike valuesOnly
          (fields.ofDocumentItems record size room place (Items.ofList (before ++ d :: behind)))
          (fields.ofDocumentItems record size room place (Items.ofList (before ++ d' :: behind)))
  | _, .nil, _, hshape => nomatch hshape
  | [], .cons _ shape _ rest, place, hshape => by
    cases hshape
    simp only [List.nil_append, Items.ofList, ofDocumentItems_cons]
    exact (h.mapError _).bind fun v => .same _
  | first :: before, .cons _ _ _ rest, place, hshape => by
    have hrest := alike_ofDocumentItems record size h behind before rest (place + 1) hshape
    simp only [List.cons_append, Items.ofList, ofDocumentItems_cons]
    exact (Alike.same _).bind fun v => hrest.map _

/-- The value of one member. -/
theorem alike_fillFrom {shape : Shape} {d d' : Document} {key : String}
    (h : Alike valuesOnly (shape.ofDocument room d) (shape.ofDocument room d')) :
    (fields : Fields) → (slots : fields.Slots) → fields.shape? key = some shape →
      Alike valuesOnly (fields.fillFrom room slots key d) (fields.fillFrom room slots key d')
  | .nil, _, hshape => nomatch hshape
  | .cons name shape' presence rest, (slot, slots), hshape => by
    unfold Fields.shape? at hshape
    by_cases hkey : key = name
    · rw [if_pos hkey] at hshape
      cases hshape
      rw [Fields.fillFrom_self hkey, Fields.fillFrom_self hkey]
      split
      · exact .same _
      · exact (h.mapError _).map _
    · rw [if_neg hkey] at hshape
      rw [Fields.fillFrom_of_ne hkey, Fields.fillFrom_of_ne hkey]
      exact (alike_fillFrom h rest slots hshape).map _

/-- The value of one member of an object. -/
theorem alike_readMembers {shape : Shape} {d d' : Document} {key : String} {fields : Fields}
    (h : Alike valuesOnly (shape.ofDocument room d) (shape.ofDocument room d'))
    (hshape : fields.shape? key = some shape) (before behind : List (Option String × Document))
    (slots : fields.Slots) :
    Alike valuesOnly
      (readMembers (fields.fillFrom room) slots
        (Json.Members.Written.ofList (before ++ (some key, d) :: behind)))
      (readMembers (fields.fillFrom room) slots
        (Json.Members.Written.ofList (before ++ (some key, d') :: behind))) := by
  induction before generalizing slots with
  | nil =>
    simp only [List.nil_append, Json.Members.Written.ofList, readMembers_cons]
    exact (alike_fillFrom h fields slots hshape).bind fun slots => .same _
  | cons first before ih =>
    obtain ⟨name, first⟩ := first
    simp only [List.cons_append, Json.Members.Written.ofList]
    cases name with
    | none => exact .same _
    | some name =>
      simp only [readMembers_cons]
      exact (Alike.same _).bind ih

variable {Change : Fields → List (Option String × Document) → List (Option String × Document) → Prop}

/-- What has something inside is not null. -/
theorem Medium.ne_null_of_within_text {s : Shape} {d d' : Document}
    (h : Medium.text.Within Change s d d') : d ≠ .null ∧ d' ≠ .null := by
  induction h with
  | optional _ ih => exact ih
  | _ => exact ⟨nofun, nofun⟩

theorem ofDocument_optional {inner : Shape} {d : Document} (h : d ≠ .null) :
    (Shape.optional inner).ofDocument room d = (inner.ofDocument room d).map some := by
  cases d with
  | null => exact absurd rfl h
  | _ => rfl

/-- **What a record does not feel is not felt by the message around it**, read from a text. -/
theorem Medium.alike_ofDocument
    (hchange : ∀ {fields ms ms'}, Change fields ms ms' → ∀ (room : Nat) (slots : fields.Slots),
      Alike valuesOnly
        (readMembers (fields.fillFrom room) slots (Json.Members.Written.ofList ms))
        (readMembers (fields.fillFrom room) slots (Json.Members.Written.ofList ms')))
    {s : Shape} {d d' : Document} (h : Medium.text.Within Change s d d') (room : Nat) :
    Alike valuesOnly (s.ofDocument room d) (s.ofDocument room d') := by
  -- without room for one more container both are refused
  induction h generalizing room with
  | here h =>
    cases room with
    | zero => exact .same _
    | succ room =>
      simp only [Medium.text, ofDocument_object]
      exact (hchange h room _).bind fun slots => .same _
  | member before behind hshape _ ih =>
    cases room with
    | zero => exact .same _
    | succ room =>
      simp only [Medium.text, ofDocument_object]
      exact (alike_readMembers (ih room) hshape before behind _).bind fun slots => .same _
  | place before behind hshape _ ih =>
    cases room with
    | zero => exact .same _
    | succ room =>
      simp only [Medium.text, ofDocument_array]
      exact (alike_ofDocumentItems _ _ (ih room) behind before _ 0 hshape).bind fun read => .same _
  | item before behind _ ih =>
    cases room with
    | zero => exact .same _
    | succ room => exact alike_readItems (ih room) before behind 0
  | optional hinner ih =>
    obtain ⟨hd, hd'⟩ := ne_null_of_within_text hinner
    rw [ofDocument_optional hd, ofDocument_optional hd']
    exact (ih room).map some

end Documents

/-! ## Reading values -/

section Values

variable {valuesOnly : Bool}

/-- One item of an array. -/
theorem alike_mapM {item : Json → Except Issue α} {j j' : Json}
    (h : Alike valuesOnly (item j) (item j')) (before behind : List Json) :
    Alike valuesOnly ((before ++ j :: behind).mapM item) ((before ++ j' :: behind).mapM item) := by
  induction before with
  | nil =>
    simp only [List.nil_append, List.mapM_cons]
    exact h.bind fun v => .same _
  | cons first before ih =>
    simp only [List.cons_append, List.mapM_cons]
    exact (Alike.same _).bind fun v => ih.bind fun vs => .same _

/-- One item that stands at the place of a member. -/
theorem alike_ofItems {shape : Shape} {j j' : Json} (record : String) (size : Nat)
    (h : Alike valuesOnly (shape.ofJson j) (shape.ofJson j')) (behind : List Json) :
    (before : List Json) → (fields : Fields) → (place : Nat) →
      fields.shapeAt? before.length = some shape →
        Alike valuesOnly (fields.ofItems record size place (before ++ j :: behind))
          (fields.ofItems record size place (before ++ j' :: behind))
  | _, .nil, _, hshape => nomatch hshape
  | [], .cons _ shape _ rest, place, hshape => by
    cases hshape
    simp only [List.nil_append, ofItems_cons]
    exact h.bind fun v => .same _
  | first :: before, .cons _ _ _ rest, place, hshape => by
    have hrest := alike_ofItems record size h behind before rest (place + 1) hshape
    simp only [List.cons_append, ofItems_cons]
    exact (Alike.same _).bind fun v => hrest.map _

/-- The value of one member. -/
theorem alike_fill {shape : Shape} {j j' : Json} {key : String}
    (h : Alike valuesOnly (shape.ofJson j) (shape.ofJson j')) : (fields : Fields) →
      (slots : fields.Slots) → fields.shape? key = some shape →
        Alike valuesOnly (fields.fill slots key j) (fields.fill slots key j')
  | .nil, _, hshape => nomatch hshape
  | .cons name shape' presence rest, (slot, slots), hshape => by
    unfold Fields.shape? at hshape
    by_cases hkey : key = name
    · rw [if_pos hkey] at hshape
      cases hshape
      rw [Fields.fill_self hkey, Fields.fill_self hkey]
      split
      · exact .same _
      · exact h.map _
    · rw [if_neg hkey] at hshape
      rw [Fields.fill_of_ne hkey, Fields.fill_of_ne hkey]
      exact (alike_fill h rest slots hshape).map _

/-- The value of one member of an object. -/
theorem alike_fillAll {shape : Shape} {j j' : Json} {key : String} {fields : Fields}
    (h : Alike valuesOnly (shape.ofJson j) (shape.ofJson j')) (hshape : fields.shape? key = some shape)
    (before behind : Json.Members) (slots : fields.Slots) :
    Alike valuesOnly (fields.fillAll slots (before ++ (key, j) :: behind))
      (fields.fillAll slots (before ++ (key, j') :: behind)) := by
  unfold Fields.fillAll
  induction before generalizing slots with
  | nil =>
    simp only [List.nil_append, List.foldlM_cons]
    exact (alike_fill h fields slots hshape).bind fun slots => .same _
  | cons first before ih =>
    simp only [List.cons_append, List.foldlM_cons]
    exact (Alike.same _).bind ih

variable {Change : Fields → Json.Members → Json.Members → Prop}

theorem Medium.ne_null_of_within_value {s : Shape} {j j' : Json}
    (h : Medium.value.Within Change s j j') : j ≠ .null ∧ j' ≠ .null := by
  induction h with
  | optional _ ih => exact ih
  | _ => exact ⟨nofun, nofun⟩

theorem ofJson_optional {inner : Shape} {j : Json} (h : j ≠ .null) :
    (Shape.optional inner).ofJson j = (inner.ofJson j).map some := by
  cases j with
  | null => exact absurd rfl h
  | _ => rfl

/-- **What a record does not feel is not felt by the message around it**, read from a value. -/
theorem Medium.alike_ofJson
    (hchange : ∀ {fields ms ms'}, Change fields ms ms' → ∀ slots : fields.Slots,
      Alike valuesOnly (fields.fillAll slots ms) (fields.fillAll slots ms'))
    {s : Shape} {j j' : Json} (h : Medium.value.Within Change s j j') :
    Alike valuesOnly (s.ofJson j) (s.ofJson j') := by
  induction h with
  | here h =>
    simp only [Medium.value, Fields.ofJson_object]
    exact (hchange h _).bind fun slots => .same _
  | member before behind hshape _ ih =>
    simp only [Medium.value, Fields.ofJson_object]
    exact (alike_fillAll ih hshape before behind _).bind fun slots => .same _
  | @place _ _ _ j j' before behind hshape _ ih =>
    have hlength : (before ++ j :: behind).length = (before ++ j' :: behind).length := by simp
    simp only [Medium.value, ofJson_array, hlength]
    exact (alike_ofItems _ _ ih behind before _ 0 hshape).bind fun read => .same _
  | item before behind _ ih => exact alike_mapM ih before behind
  | optional hinner ih =>
    obtain ⟨hj, hj'⟩ := ne_null_of_within_value hinner
    rw [ofJson_optional hj, ofJson_optional hj']
    exact ih.map some

end Values

end Wire

end Brokerage
