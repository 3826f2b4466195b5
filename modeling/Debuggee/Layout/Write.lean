import Debuggee.Layout.Basic

/-! Writing a value by its layout. Members come in the order of the fields. -/

namespace Debuggee

mutual

def Layout.write : {α : Type} → Layout α → α → Json
  | _, .integer, value => .integer value.toInt
  | _, .word16, value => .integer value.toNat
  | _, .word32, value => .integer value.toNat
  | _, .word64, value => .integer value.toNat
  | _, .boolean, value => .boolean value
  | _, .text, value => .text value
  | _, .path, value => .text value
  | _, .anything, value => value
  | _, .list item, values => .list (values.map item.write)
  | _, .record _ _ fields _ unpack _, value => .object (fields.write (unpack value))

def Field.write : {α : Type} → Field α → α → Option Json
  | _, .required _ layout, value => some (layout.write value)
  | _, .defaulted _ layout _, value => some (layout.write value)
  | _, .optional _ layout, value => value.map layout.write
  | _, .nullable _ layout _, value => some ((value.map layout.write).getD .null)

def Fields.write : {σ τ : Type} → Fields σ τ → σ → List (String × Json)
  | _, _, .nil, _ => []
  | _, _, .cons field others, (component, components) =>
    match field.write component with
    | some data => (field.name, data) :: others.write components
    | none => others.write components

end

def toJson [HasLayout α] (value : α) : Json :=
  (HasLayout.layout : Layout α).write value

end Debuggee
