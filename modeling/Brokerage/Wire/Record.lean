import Brokerage.Wire.Shape
import Brokerage.Wire.Issue

/-!
# Records under construction

* `Fields.Slots`: for each member of a record, the value it was given, if it was given one.
* `Fields.emptySlots`: none of them was given one.
* `Fields.close`: the values of the members once all were read; the first one missing is reported.
-/

namespace Brokerage.Wire

/-- The values members were given so far. -/
@[reducible] def Fields.Slots : Fields → Type
  | .nil => Unit
  | .cons _ shape _ rest => Option shape.Value × rest.Slots

/-- No member was given a value. -/
def Fields.emptySlots : (fs : Fields) → fs.Slots
  | .nil => ()
  | .cons _ _ _ rest => (none, rest.emptySlots)

/-- The value of a member that was not given one: blank if it may be left out, nothing if null
would do. -/
def Shape.missing? (p : Presence) : (s : Shape) → Option s.Value
  | .optional _ => some none
  | s => if p.defaulted then some s.blank else none

/-- The values of the members, unless one is missing. -/
def Fields.close : (fs : Fields) → fs.Slots → Except Issue fs.Values
  | .nil, _ => .ok ()
  | .cons name shape presence rest, (slot, slots) =>
    match slot.or (shape.missing? presence) with
    | none => .error (.missing name)
    | some v =>
      match rest.close slots with
      | .error e => .error e
      | .ok vs => .ok (v, vs)

end Brokerage.Wire
