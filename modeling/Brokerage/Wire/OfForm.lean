import Brokerage.Wire.OfJson

/-!
# Reading messages from forms

A form is a list of names with texts, as a query string holds them.

* `Shape.ofFormText`: the value that a text in a form stands for.
* `Wire.decodeForm`: the message of a form, entries taken in order.
-/

namespace Brokerage.Wire

/-- The truth value a text writes. -/
def flagOfText (s : String) : Except Issue Bool :=
  if s = "true" then .ok true
  else if s = "false" then .ok false
  else .error .badFlag

/-- The value that a text in a form stands for. Only texts, flags and optional ones can be given. -/
def Shape.ofFormText : (s : Shape) → String → Except Issue s.Value
  | .text, t => .ok t
  | .flag _, t => flagOfText t
  | .optional inner, t => (inner.ofFormText t).map some
  | .port, t => .error (.wrongType (.text t) "u16")
  | .address, t => addressOfText t
  | .state, t => stateOfText t
  | .object, t => .error (.wrongType (.text t) "a map")
  | .list _, t => .error (.wrongType (.text t) "a sequence")
  | .record name _, t => .error (.wrongType (.text t) ("struct " ++ name))

/-- Gives a member the value of an entry; an unknown name is passed over. -/
def Fields.fillForm : (fs : Fields) → fs.Slots → String → String → Except Issue fs.Slots
  | .nil, slots, _, _ => .ok slots
  | .cons name shape _ rest, (slot, slots), key, t =>
    if key = name then
      if slot.isSome then .error (.duplicate name)
      else (shape.ofFormText t).map fun v => (some v, slots)
    else (rest.fillForm slots key t).map fun slots => (slot, slots)

/-- Reads the members of a record from the entries of a form. -/
def Fields.ofForm (fs : Fields) (form : List (String × String)) : Except Issue fs.Values :=
  (form.foldlM (fun slots (k, t) => fs.fillForm slots k t) fs.emptySlots).bind fs.close

/-- Reads the value of a form. Only records travel in forms. -/
def Shape.ofForm : (s : Shape) → List (String × String) → Except Issue s.Value
  | .record _ fields, form => fields.ofForm form
  | _, _ => .error (.wrongType .map "a value")

/-- Reads a message from a form. -/
def decodeForm (α : Type) [Message α] (form : List (String × String)) : Except Issue α :=
  ((Message.shape α).ofForm form).map Message.ofValue

end Brokerage.Wire
