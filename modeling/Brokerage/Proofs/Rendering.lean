import Brokerage.Http.Rendering
import Brokerage.Proofs.Resolve

/-!
# Every message can be written

A body has no value where a key is no text or a part refuses to be written. Messages hold neither: the
names of their members are fixed, the keys of the objects they keep are texts, and none of their parts
refuses. So what a message tells has a value, and that is the message as it is encoded.

* `Json.render_emit`, `Shape.render_emit`: what a value tells is rendered as the value it stands for.
* `Body.render_eq`: **every body can be written.**
* `Http.outcomeResponse_eq`: the response to an outcome is that which carries its answer.
-/

namespace Brokerage

open Wire (Emission Shape Fields)

mutual

/-- **A value that is kept is rendered as itself.** -/
theorem Json.render_emit : (j : Json) → j.emit.render = .ok j
  | .null => rfl
  | .bool _ => rfl
  | .number _ => rfl
  | .text _ => rfl
  | .array items => by
    unfold Json.emit Emission.render
    rw [Json.renderItems_emit items]
    rfl
  | .object members => by
    unfold Json.emit Emission.render
    rw [Json.renderEntries_emit members]
    rfl

theorem Json.renderItems_emit : (items : List Json) →
    Emission.renderItems (Json.emitItems items) = .ok items
  | [] => rfl
  | item :: rest => by
    unfold Json.emitItems Emission.renderItems
    rw [Json.render_emit item, Json.renderItems_emit rest]
    rfl

/-- The keys of an object are its names. -/
theorem Json.renderEntries_emit : (members : List (String × Json)) →
    Emission.renderEntries (Json.emitMembers members) = .ok members
  | [] => rfl
  | (name, value) :: rest => by
    unfold Json.emitMembers Emission.renderEntries
    rw [Json.render_emit value, Json.renderEntries_emit rest]
    rfl

end

namespace Wire

/-- Items are rendered one by one. -/
theorem Emission.renderItems_map {α : Type} {tell : α → Emission} {write : α → Json}
    (h : ∀ a, (tell a).render = .ok (write a)) (items : List α) :
    renderItems (items.map tell) = .ok (items.map write) := by
  induction items with
  | nil => rfl
  | cons item rest ih =>
    rw [List.map_cons, List.map_cons, renderItems, h item, ih]
    rfl

mutual

/-- **What a value of a shape tells is rendered as the value that is written for it.** -/
theorem Shape.render_emit : (s : Shape) → (v : s.Value) → (s.emit v).render = .ok (s.toJson v)
  | .text, _ => rfl
  | .flag _, _ => rfl
  | .port, _ => rfl
  | .address, _ => rfl
  | .state, _ => rfl
  | .object, ms => by
    unfold Shape.emit Emission.render
    rw [Json.renderEntries_emit ms]
    rfl
  | .list item, vs => by
    have hitems := Emission.renderItems_map (fun v => item.render_emit v) vs
    unfold Shape.emit Emission.render
    rw [hitems]
    rfl
  | .optional _, none => rfl
  | .optional inner, some v => inner.render_emit v
  | .record _ fields, vs => by
    unfold Shape.emit Emission.render
    rw [fields.renderMembers_emit vs]
    rfl

theorem Fields.renderMembers_emit : (fs : Fields) → (vs : fs.Values) →
    Emission.renderMembers (fs.emit vs) = .ok (fs.toMembers vs)
  | .nil, _ => rfl
  | .cons name shape presence rest, (v, vs) => by
    have hrest := rest.renderMembers_emit vs
    unfold Fields.emit Fields.toMembers
    by_cases hblank : (presence.omitted && shape.isBlank v) = true
    · rw [if_pos hblank, if_pos hblank]
      exact hrest
    · rw [if_neg hblank, if_neg hblank, Emission.renderMembers, shape.render_emit v, hrest]
      rfl

end

/-- What a message tells is rendered as the message. -/
theorem render_emit {α : Type} [Message α] (a : α) : (emit a).render = .ok (encode a) :=
  Shape.render_emit _ _

end Wire

/-! ## Answers -/

/-- **Every body can be written**, whatever the service said. -/
theorem Body.render_eq {ρ : Type} [Wire.Message ρ] (b : Body ρ) : b.render = .ok b.toJson := by
  cases b with
  | empty => rfl
  | json response => exact Wire.render_emit response
  | error e => exact Wire.render_emit e

namespace Http

/-- **The response to an outcome carries its answer.** -/
theorem outcomeResponse_eq {ρ : Type} [Brokerage.Response ρ] (op : Operation) (outcome : Outcome ρ) :
    outcomeResponse op outcome = answerResponse (.ofOutcome op outcome) := by
  unfold outcomeResponse
  simp only [Body.render_eq]
  rfl

end Http

end Brokerage
