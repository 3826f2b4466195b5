import Debuggee.Layout.Basic
import Debuggee.Layout.Error

/-!
Reading a value by its layout. A record is read from an object, in any order of its members, or
from a list of its components. The first failure in the order of the data wins; fields that no
member named are reported last, in their own order.
-/

namespace Debuggee

/-- Where data comes from, as far as that decides which data is refused. -/
inductive Medium where
  | text (levels : Nat)
  | value
  /-- A configuration document, in whose lists nobody asks for surplus items. -/
  | document
  deriving DecidableEq, Repr

namespace Medium

def fullText : Medium := .text 127

def enter : Medium → Except LayoutError Medium
  | .text 0 => .error (.fault .tooDeep)
  | .text (levels + 1) => .ok (.text levels)
  | .value => .ok .value
  | .document => .ok .document

end Medium

def passing (outcome : Except Fault α) : Except LayoutError α :=
  outcome.mapError .fault

namespace Draft

mutual

def toJson : Draft → Medium → Except LayoutError Json
  | .null, _ => .ok .null
  | .boolean value, _ => .ok (.boolean value)
  | .number lexeme, _ => do
    match ← passing lexeme.meaning with
    | .integer value => .ok (.integer value)
    | .double value => .ok (.double value)
  | .text lexeme, _ => do
    let value ← passing lexeme.meaning
    .ok (.text value)
  | .list items closing, medium => do
    let inside ← medium.enter
    let values ← itemsToJson items inside
    passing closing.read
    .ok (.list values)
  | .object members closing, medium => do
    let inside ← medium.enter
    let values ← membersToJson members inside []
    passing closing.read
    .ok (.object values)
  | .fault cause, _ => .error (.fault cause)

def itemsToJson : List Draft → Medium → Except LayoutError (List Json)
  | [], _ => .ok []
  | item :: items, inside => do
    let value ← item.toJson inside
    let values ← itemsToJson items inside
    .ok (value :: values)

def membersToJson : List (Lexeme String × Draft) → Medium → List (String × Json) →
    Except LayoutError (List (String × Json))
  | [], _, done => .ok done
  | (key, draft) :: members, inside, done => do
    let name ← passing key.meaning
    let value ← draft.toJson inside
    membersToJson members inside (Json.setMember name value done)

end

def found : Draft → Except LayoutError Found
  | .null => .ok .null
  | .boolean value => .ok (.boolean value)
  | .number lexeme => do
    match ← passing lexeme.meaning with
    | .integer value => .ok (.integer value)
    | .double value => .ok (.double value)
  | .text lexeme => do
    let value ← passing lexeme.meaning
    .ok (.text value)
  | .list _ _ => .ok .list
  | .object _ _ => .ok .object
  | .fault cause => .error (.fault cause)

def refuse (draft : Draft) (wanted : Wanted) : Except LayoutError α := do
  let found ← draft.found
  .error (.wrongKind found wanted)

/-- An integer within bounds; `lower` is included, `upper` is not. -/
def readInteger (draft : Draft) (wanted : Wanted) (lower upper : Int) :
    Except LayoutError Int := do
  match draft with
  | .number lexeme =>
    match ← passing lexeme.meaning with
    | .integer value =>
      if lower ≤ value ∧ value < upper then .ok value
      else .error (.outOfRange value wanted)
    | .double value => .error (.wrongKind (.double value) wanted)
  | _ => draft.refuse wanted

def readText (draft : Draft) (wanted : Wanted) : Except LayoutError String := do
  match draft with
  | .text lexeme => passing lexeme.meaning
  | _ => draft.refuse wanted

end Draft

namespace Closing

def readLast : Closing → Except LayoutError Unit
  | .closed => .ok ()
  | .broken fault _ =>
    .error (.fault (if fault = .expectedListSeparator then .trailingCharacters else fault))

end Closing

def Medium.endList (medium : Medium) (length : Nat) (surplus : List Draft) (closing : Closing) :
    Except LayoutError Unit :=
  match surplus, medium with
  | [], _ => closing.readLast
  | _ :: _, .text _ => .error (.fault .trailingCharacters)
  | _ :: _, .value => .error (.listTooLong length)
  | _ :: _, .document => .ok ()

def Fields.settle : {σ τ : Type} → Fields σ τ → τ → Except LayoutError σ
  | _, _, .nil, _ => .ok ()
  | _, _, .cons field others, (slot, slots) =>
    match slot.or field.missing? with
    | none => .error (.missingField field.name)
    | some component => do
      let components ← others.settle slots
      .ok (component, components)

mutual

def Layout.read : {α : Type} → Layout α → Medium → Draft → Except LayoutError α
  | _, .integer, _, draft => do
    let value ← draft.readInteger .integer Int64.minValue.toInt (Int64.maxValue.toInt + 1)
    .ok (Int64.ofInt value)
  | _, .word16, _, draft => do
    let value ← draft.readInteger .word16 0 UInt16.size
    .ok (UInt16.ofNat value.toNat)
  | _, .word32, _, draft => do
    let value ← draft.readInteger .word32 0 UInt32.size
    .ok (UInt32.ofNat value.toNat)
  | _, .word64, _, draft => do
    let value ← draft.readInteger .word64 0 UInt64.size
    .ok (UInt64.ofNat value.toNat)
  | _, .boolean, _, draft =>
    match draft with
    | .boolean value => .ok value
    | _ => draft.refuse .boolean
  | _, .text, _, draft => draft.readText .text
  | _, .path, _, draft => draft.readText .path
  | _, .anything, medium, draft => draft.toJson medium
  | _, .list item, medium, draft =>
    match draft with
    | .list items closing => do
      let inside ← medium.enter
      let values ← items.mapM (item.read inside)
      passing closing.read
      .ok values
    | _ => draft.refuse .list
  | _, .record name guarded fields pack _ _, medium, draft =>
    match draft with
    | .object members closing => do
      let inside ← medium.enter
      let known := if guarded then some fields.names else none
      let slots ← members.foldlM
        (fun slots member => fields.readMember known inside member.1 member.2 slots)
        fields.vacant
      passing closing.read
      let components ← fields.settle slots
      .ok (pack components)
    | .list items closing => do
      let inside ← medium.enter
      let (components, surplus) ← fields.readItems inside name fields.names.length 0 items closing
      medium.endList items.length surplus closing
      .ok (pack components)
    | _ => draft.refuse (.record name)

def Field.read : {α : Type} → Field α → Medium → Draft → Except LayoutError α
  | _, .required _ layout, medium, draft => layout.read medium draft
  | _, .defaulted _ layout _, medium, draft => layout.read medium draft
  | _, .optional _ layout, medium, draft =>
    match draft with
    | .null => .ok none
    | _ => (layout.read medium draft).map some
  | _, .nullable _ layout _, medium, draft =>
    match draft with
    | .null => .ok none
    | _ => (layout.read medium draft).map some

def Fields.readMember : {σ τ : Type} → Fields σ τ → Option (List String) → Medium →
    Lexeme String → Draft → τ → Except LayoutError τ
  | _, _, .nil, known, _, key, draft, _ => do
    let name ← passing key.meaning
    match known with
    | some names => .error (.unknownField name names)
    | none => passing draft.pass
  | _, _, .cons field others, known, medium, key, draft, (slot, slots) => do
    let name ← passing key.meaning
    if name = field.name then
      match slot with
      | some _ => .error (.duplicateField name)
      | none =>
        let component ← field.read medium draft
        .ok (some component, slots)
    else
      let rest ← others.readMember known medium key draft slots
      .ok (slot, rest)

def Fields.readItems : {σ τ : Type} → Fields σ τ → Medium → String → Nat → Nat → List Draft →
    Closing → Except LayoutError (σ × List Draft)
  | _, _, .nil, _, _, _, _, items, _ => .ok ((), items)
  | _, _, .cons field others, medium, record, size, place, items, closing =>
    match items with
    | item :: items => do
      let component ← field.read medium item
      let (components, surplus) ← others.readItems medium record size (place + 1) items closing
      .ok ((component, components), surplus)
    | [] => do
      passing closing.read
      match field.beyondEnd? with
      | none => .error (.listTooShort place record size)
      | some component =>
        let (components, surplus) ← others.readItems medium record size (place + 1) [] closing
        .ok ((component, components), surplus)

end

mutual

def Json.draft : Json → Draft
  | .null => .null
  | .boolean value => .boolean value
  | .integer value => .number (.plain (.integer value))
  | .double value => .number (.plain (.double value))
  | .text value => .text (.plain value)
  | .list items => .list (Json.draftItems items) .closed
  | .object members => .object (Json.draftMembers members) .closed

def Json.draftItems : List Json → List Draft
  | [] => []
  | item :: items => item.draft :: Json.draftItems items

def Json.draftMembers : List (String × Json) → List (Lexeme String × Draft)
  | [] => []
  | (key, value) :: members => (.plain key, value.draft) :: Json.draftMembers members

end

def fromJson [HasLayout α] (data : Json) : Except LayoutError α :=
  (HasLayout.layout : Layout α).read .value data.draft

end Debuggee
