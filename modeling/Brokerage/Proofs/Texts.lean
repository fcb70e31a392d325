import Brokerage.Proofs.Grammar
import Brokerage.Wire.OfText

/-!
# The values of texts

The value of a tree can be said without a limit to its depth. Reading a text as a value is then three
things: its tokens are those of a tree, the tree has that value, and the tree is not too deep.

* `Document.value?`, `Document.depth`: the value of a tree, and how deep its containers are nested.
* `Document.toJson?_eq_some_iff`: a tree has a value within some room if it has one and is no deeper.
* `Json.parse?_eq_some_iff`: **the texts of a value.**
* `Wire.ofText_object_iff`: an object that is kept as it is is read from the texts of its value.
-/

namespace Brokerage.Json

mutual

/-- The value of a tree, however deep. -/
def Document.value? : Document → Option Json
  | .null => some .null
  | .bool b => some (.bool b)
  | .numeral n => n.number?.map .number
  | .text content => content.map .text
  | .array items => items.values?.map .array
  | .object members => members.values?.map ofMembers
  | .broken => none

/-- The values of items. -/
def Items.values? : Items → Option (List Json)
  | .closed => some []
  | .cut => none
  | .cons item rest => item.value?.bind fun j => rest.values?.map (j :: ·)

/-- The members as they are written. -/
def Members.Written.values? : Members.Written → Option Members
  | .closed => some []
  | .cut => none
  | .cons name value rest =>
    name.bind fun name => value.value?.bind fun j => rest.values?.map ((name, j) :: ·)

end

mutual

/-- How deep arrays and objects are nested. -/
def Document.depth : Document → Nat
  | .array items => items.depth + 1
  | .object members => members.depth + 1
  | _ => 0

/-- The depth of the deepest item. -/
def Items.depth : Items → Nat
  | .cons item rest => max item.depth rest.depth
  | _ => 0

/-- The depth of the deepest member. -/
def Members.Written.depth : Members.Written → Nat
  | .cons _ value rest => max value.depth rest.depth
  | _ => 0

end

mutual

/-- **A tree has a value within some room** if it has one and is no deeper. -/
theorem Document.toJson?_eq_some_iff : (d : Document) → {room : Nat} → {j : Json} →
    (d.toJson? room = some j ↔ d.value? = some j ∧ d.depth ≤ room)
  | .null, room, j => by cases room <;> simp [Document.toJson?, Document.value?, Document.depth]
  | .bool b, room, j => by cases room <;> simp [Document.toJson?, Document.value?, Document.depth]
  | .numeral n, room, j => by cases room <;> simp [Document.toJson?, Document.value?, Document.depth]
  | .text content, room, j => by cases room <;> simp [Document.toJson?, Document.value?, Document.depth]
  | .broken, room, j => by cases room <;> simp [Document.toJson?, Document.value?]
  | .array items, 0, j => by simp [Document.toJson?, Document.depth]
  | .array items, room + 1, j => by
    simp only [Document.toJson?, Document.value?, Document.depth, Option.map_eq_some_iff,
      items.toJson?_eq_some_iff, Nat.add_le_add_iff_right]
    grind
  | .object members, 0, j => by simp [Document.toJson?, Document.depth]
  | .object members, room + 1, j => by
    simp only [Document.toJson?, Document.value?, Document.depth, Option.map_eq_some_iff,
      members.toJson?_eq_some_iff, Nat.add_le_add_iff_right]
    grind

theorem Items.toJson?_eq_some_iff : (items : Items) → {room : Nat} → {js : List Json} →
    (items.toJson? room = some js ↔ items.values? = some js ∧ items.depth ≤ room)
  | .closed, room, js => by simp [Items.toJson?, Items.values?, Items.depth]
  | .cut, room, js => by simp [Items.toJson?, Items.values?]
  | .cons item rest, room, js => by
    simp only [Items.toJson?, Items.values?, Items.depth, Option.bind_eq_bind, Option.bind_eq_some_iff,
      Option.map_eq_some_iff, Option.pure_def, Option.some.injEq, item.toJson?_eq_some_iff,
      rest.toJson?_eq_some_iff, Nat.max_le]
    grind

theorem Members.Written.toJson?_eq_some_iff : (members : Members.Written) → {room : Nat} →
    {ms : Members} →
      (members.toJson? room = some ms ↔ members.values? = some ms ∧ members.depth ≤ room)
  | .closed, room, ms => by simp [Members.Written.toJson?, Members.Written.values?, Members.Written.depth]
  | .cut, room, ms => by simp [Members.Written.toJson?, Members.Written.values?]
  | .cons name value rest, room, ms => by
    simp only [Members.Written.toJson?, Members.Written.values?, Members.Written.depth,
      Option.bind_eq_bind, Option.bind_eq_some_iff, Option.map_eq_some_iff, Option.pure_def,
      Option.some.injEq, value.toJson?_eq_some_iff, rest.toJson?_eq_some_iff, Nat.max_le]
    grind

end

mutual

/-- A tree with a value does not break off. -/
theorem Document.isWhole_of_value? : (d : Document) → {j : Json} → d.value? = some j →
    d.isWhole = true
  | .null, _, _ => rfl
  | .bool _, _, _ => rfl
  | .numeral _, _, _ => rfl
  | .text _, _, _ => rfl
  | .broken, _, h => nomatch h
  | .array items, _, h => by
    obtain ⟨js, hjs, -⟩ := Option.map_eq_some_iff.1 h
    exact items.isWhole_of_values? hjs
  | .object members, _, h => by
    obtain ⟨ms, hms, -⟩ := Option.map_eq_some_iff.1 h
    exact members.isWhole_of_values? hms

theorem Items.isWhole_of_values? : (items : Items) → {js : List Json} → items.values? = some js →
    items.isWhole = true
  | .closed, _, _ => rfl
  | .cut, _, h => nomatch h
  | .cons item rest, _, h => by
    obtain ⟨j, hj, h⟩ := Option.bind_eq_some_iff.1 h
    obtain ⟨js, hjs, -⟩ := Option.map_eq_some_iff.1 h
    exact Bool.and_eq_true_iff.2 ⟨item.isWhole_of_value? hj, rest.isWhole_of_values? hjs⟩

theorem Members.Written.isWhole_of_values? : (members : Members.Written) → {ms : Members} →
    members.values? = some ms → members.isWhole = true
  | .closed, _, _ => rfl
  | .cut, _, h => nomatch h
  | .cons name value rest, _, h => by
    obtain ⟨name', -, h⟩ := Option.bind_eq_some_iff.1 h
    obtain ⟨j, hj, h⟩ := Option.bind_eq_some_iff.1 h
    obtain ⟨ms, hms, -⟩ := Option.map_eq_some_iff.1 h
    exact Bool.and_eq_true_iff.2 ⟨value.isWhole_of_value? hj, rest.isWhole_of_values? hms⟩

end

/-- **A text is one of a tree**: it has the tokens of the tree, and the tree does not break off. -/
def Document.HasText (d : Document) (bytes : List UInt8) : Prop :=
  d.isWhole = true ∧ Token.scan bytes = d.tokens

/-- The first value of a text is the whole of it if it is the text of a tree. -/
theorem Document.read_of_hasText {d : Document} {bytes : List UInt8} (h : d.HasText bytes) :
    read bytes = (d, []) :=
  (read_eq_iff h.1).2 h.2

/-- A text with a value is that of a tree with it, and nothing more. -/
theorem read_of_parse? {bytes : List UInt8} {j : Json} (h : parse? bytes = some j) :
    ∃ d, Document.read bytes = (d, []) ∧ d.toJson? maxDepth = some j := by
  unfold parse? at h
  split at h
  · rename_i d hread
    exact ⟨d, hread, h⟩
  · cases h

/-- **The texts of a value**: those of a tree with that value that is not too deep. -/
theorem parse?_eq_some_iff {bytes : List UInt8} {j : Json} : parse? bytes = some j ↔
    ∃ d : Document, d.HasText bytes ∧ d.value? = some j ∧ d.depth ≤ maxDepth := by
  constructor
  · intro h
    obtain ⟨d, hread, hd⟩ := read_of_parse? h
    obtain ⟨hvalue, hdepth⟩ := d.toJson?_eq_some_iff.1 hd
    have hwhole := d.isWhole_of_value? hvalue
    exact ⟨d, ⟨hwhole, (Document.read_eq_iff hwhole).1 hread⟩, hvalue, hdepth⟩
  · rintro ⟨d, htext, hvalue, hdepth⟩
    unfold parse?
    rw [Document.read_of_hasText htext]
    exact d.toJson?_eq_some_iff.2 ⟨hvalue, hdepth⟩

end Brokerage.Json

namespace Brokerage.Wire

open Json (Document)

/-- A text is read if its front is and nothing stands behind it. -/
theorem Shape.ofText_eq_bind (s : Shape) (bytes : List UInt8) :
    s.ofText bytes = (s.ofFront bytes).bind fun v =>
      match (Document.read bytes).2 with
      | [] => .ok v
      | _ :: _ => .error .syntaxError := by
  unfold ofText
  cases s.ofFront bytes with
  | error e => rfl
  | ok v => cases (Document.read bytes).2 <;> rfl

/-- A text of a document and nothing more is read as its front is. -/
theorem Shape.ofText_of_read (s : Shape) {bytes : List UInt8} {d : Document}
    (h : Document.read bytes = (d, [])) : s.ofText bytes = s.ofDocument Json.maxDepth d := by
  rw [ofText_eq_bind, ofFront, h]
  cases s.ofDocument Json.maxDepth d <;> rfl

/-- An object that is kept as it is is read from the documents of its value. -/
theorem ofDocument_object_iff {room : Nat} {d : Document} {members : Json.Members} :
    Shape.object.ofDocument room d = .ok members ↔ d.toJson? room = some (.object members) := by
  cases d with
  | object written =>
    cases room with
    | zero => simp [Shape.ofDocument, Document.toJson?]
    | succ room =>
      unfold Shape.ofDocument Document.toJson?
      cases hmembers : written.toJson? room with
      | none => simp [hmembers]
      | some ms => simp [hmembers, Json.ofMembers]
  | _ =>
    -- no other document has an object for its value
    constructor
    · intro h
      cases h
    · intro h
      cases room <;> simp [Document.toJson?] at h

/-- **So it is from the texts** of its value. -/
theorem ofText_object_iff {bytes : List UInt8} {members : Json.Members} :
    Shape.object.ofText bytes = .ok members ↔ Json.parse? bytes = some (.object members) := by
  rcases hread : Document.read bytes with ⟨d, rest⟩
  unfold Json.parse?
  rw [hread]
  cases rest with
  | nil =>
    rw [Shape.ofText_of_read _ hread]
    exact ofDocument_object_iff
  | cons t rest =>
    rw [Shape.ofText_eq_bind, hread]
    cases Shape.object.ofFront bytes <;> simp [Except.bind]

end Brokerage.Wire
