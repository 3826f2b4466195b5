import Debuggee.Proofs.Layout.Reading
import Debuggee.Proofs.Text.Redaction

/-!
Reading by a layout does not look into the texts: data that differs in its text values only is
read or refused alike. What a refusal may tell is the one text that stood in the wrong place.
-/

namespace Debuggee

namespace Json

mutual

/-- Data that is the same but for its text values, which stand in a given relation. -/
inductive Alike (Like : String → String → Prop) : Json → Json → Prop where
  | null : Alike Like .null .null
  | boolean (value : Bool) : Alike Like (.boolean value) (.boolean value)
  | integer (value : Int) : Alike Like (.integer value) (.integer value)
  | double (value : Binary64) : Alike Like (.double value) (.double value)
  | text {first second : String} (like : Like first second) :
      Alike Like (.text first) (.text second)
  | list {items items' : List Json} (alike : AlikeItems Like items items') :
      Alike Like (.list items) (.list items')
  | object {members members' : List (String × Json)} (alike : AlikeMembers Like members members') :
      Alike Like (.object members) (.object members')

inductive AlikeItems (Like : String → String → Prop) : List Json → List Json → Prop where
  | nil : AlikeItems Like [] []
  | cons {item item' : Json} {items items' : List Json} (first : Alike Like item item')
      (others : AlikeItems Like items items') : AlikeItems Like (item :: items) (item' :: items')

inductive AlikeMembers (Like : String → String → Prop) :
    List (String × Json) → List (String × Json) → Prop where
  | nil : AlikeMembers Like [] []
  | cons {value value' : Json} {members members' : List (String × Json)} (key : String)
      (first : Alike Like value value') (others : AlikeMembers Like members members') :
      AlikeMembers Like ((key, value) :: members) ((key, value') :: members')

end

end Json

variable {Like : String → String → Prop} {α β γ δ : Type}

def Wanted.Plain (wanted : Wanted) : Prop :=
  Text.Plain wanted.describe.toList
  deriving Decidable

inductive LayoutError.Alike (Like : String → String → Prop) : LayoutError → LayoutError → Prop where
  | same (error : LayoutError) : Alike Like error error
  | text {first second : String} (like : Like first second) {wanted : Wanted}
      (plain : wanted.Plain) :
      Alike Like (.wrongKind (.text first) wanted) (.wrongKind (.text second) wanted)

inductive Agree {ε : Type} (Errors : ε → ε → Prop) (Related : α → β → Prop) :
    Except ε α → Except ε β → Prop where
  | ok {first : α} {second : β} (related : Related first second) :
      Agree Errors Related (.ok first) (.ok second)
  | error {first second : ε} (alike : Errors first second) :
      Agree Errors Related (.error first) (.error second)

def Unrelated (_ : α) (_ : β) : Prop := True

namespace Agree

variable {ε κ : Type} {Errors : ε → ε → Prop} {Related : α → β → Prop} {Related' : γ → δ → Prop}
  {first : Except ε α} {second : Except ε β}

theorem refl {Related : α → α → Prop} (same : ∀ error, Errors error error)
    (related : ∀ value, Related value value) (outcome : Except ε α) :
    Agree Errors Related outcome outcome := by
  cases outcome with
  | ok value => exact .ok (related value)
  | error error => exact .error (same error)

theorem bind {next : α → Except ε γ} {next' : β → Except ε δ}
    (agree : Agree Errors Related first second)
    (followed : ∀ value value', Related value value' →
      Agree Errors Related' (next value) (next' value')) :
    Agree Errors Related' (first >>= next) (second >>= next') := by
  cases agree with
  | ok related => exact followed _ _ related
  | error alike => exact .error alike

theorem map {make : α → γ} {make' : β → δ} (agree : Agree Errors Related first second)
    (made : ∀ value value', Related value value' → Related' (make value) (make' value')) :
    Agree Errors Related' (first.map make) (second.map make') := by
  cases agree with
  | ok related => exact .ok (made _ _ related)
  | error alike => exact .error alike

theorem mapError {Errors' : κ → κ → Prop} {tell : ε → κ} (agree : Agree Errors Related first second)
    (told : ∀ error error', Errors error error' → Errors' (tell error) (tell error')) :
    Agree Errors' Related (first.mapError tell) (second.mapError tell) := by
  cases agree with
  | ok related => exact .ok related
  | error alike => exact .error (told _ _ alike)

end Agree

section Scalars

variable {data data' : Json} {wanted : Wanted}

theorem readInteger_alike (alike : data.Alike Like data') (plain : wanted.Plain)
    (lower upper : Int) :
    Agree (LayoutError.Alike Like) Eq (data.draft.readInteger wanted lower upper)
      (data'.draft.readInteger wanted lower upper) := by
  cases alike with
  | integer | double => exact .refl .same (fun _ => rfl) _
  | text like => exact .error (.text like plain)
  | null | boolean | list | object => exact .error (.same _)

theorem readText_alike (alike : data.Alike Like data') :
    Agree (LayoutError.Alike Like) Unrelated (data.draft.readText wanted)
      (data'.draft.readText wanted) := by
  cases alike with
  | text => exact .ok trivial
  | null | boolean | integer | double | list | object => exact .error (.same _)

end Scalars

section Lists

theorem Json.AlikeItems.length_eq {items items' : List Json}
    (alike : Json.AlikeItems Like items items') :
    (Json.draftItems items).length = (Json.draftItems items').length := by
  induction items generalizing items' with
  | nil =>
      cases alike
      rfl
  | cons item items ih =>
      cases alike with
      | cons first others => exact congrArg Nat.succ (ih others)

theorem mapM_alike {read : Draft → Except LayoutError α} {items items' : List Json}
    (each : ∀ {data data' : Json}, data.Alike Like data' →
      Agree (LayoutError.Alike Like) Unrelated (read data.draft) (read data'.draft))
    (alike : Json.AlikeItems Like items items') :
    Agree (LayoutError.Alike Like) Unrelated ((Json.draftItems items).mapM read)
      ((Json.draftItems items').mapM read) := by
  induction items generalizing items' with
  | nil =>
      cases alike
      exact .ok trivial
  | cons item items ih =>
      cases alike with
      | cons first others =>
          rw [Json.draftItems, Json.draftItems, List.mapM_cons, List.mapM_cons]
          exact (each first).bind fun _ _ _ => (ih others).bind fun _ _ _ => .ok trivial

theorem foldlM_alike {read : Lexeme String → Draft → α → Except LayoutError α}
    {Related : α → α → Prop} {members members' : List (String × Json)}
    (each : ∀ {data data' : Json} {slots slots' : α} (key : String), data.Alike Like data' →
      Related slots slots' → Agree (LayoutError.Alike Like) Related
        (read (.plain key) data.draft slots) (read (.plain key) data'.draft slots'))
    (alike : Json.AlikeMembers Like members members') {slots slots' : α}
    (related : Related slots slots') :
    Agree (LayoutError.Alike Like) Related
      ((Json.draftMembers members).foldlM (fun slots member => read member.1 member.2 slots) slots)
      ((Json.draftMembers members').foldlM (fun slots member => read member.1 member.2 slots)
        slots') := by
  induction members generalizing members' slots slots' with
  | nil =>
      cases alike
      exact .ok related
  | cons member members ih =>
      cases alike with
      | cons key first others =>
          rw [Json.draftMembers, Json.draftMembers, List.foldlM_cons, List.foldlM_cons]
          exact (each key first related).bind fun _ _ => ih others

end Lists

section Layouts

mutual

def Layout.isPlain : {α : Type} → Layout α → Bool
  | _, .integer | _, .word16 | _, .word32 | _, .word64 => true
  | _, .boolean | _, .text | _, .path | _, .anything => true
  | _, .list item => item.isPlain
  | _, .record name _ fields _ _ _ => decide (Wanted.record name).Plain && fields.isPlain

def Field.isPlain : {α : Type} → Field α → Bool
  | _, .required _ layout => layout.isPlain
  | _, .defaulted _ layout _ => layout.isPlain
  | _, .optional _ layout => layout.isPlain
  | _, .nullable _ layout _ => layout.isPlain

def Fields.isPlain : {σ τ : Type} → Fields σ τ → Bool
  | _, _, .nil => true
  | _, _, .cons field others => field.isPlain && others.isPlain

end

def Fields.SameFilled : {σ τ : Type} → Fields σ τ → τ → τ → Prop
  | _, _, .nil, _, _ => True
  | _, _, .cons _ others, (slot, slots), (slot', slots') =>
    slot.isSome = slot'.isSome ∧ others.SameFilled slots slots'

theorem Fields.sameFilled_refl : {σ τ : Type} → (fields : Fields σ τ) → (slots : τ) →
    fields.SameFilled slots slots
  | _, _, .nil, _ => trivial
  | _, _, .cons _ others, (_, slots) => ⟨rfl, others.sameFilled_refl slots⟩

theorem Fields.settle_alike : {σ τ : Type} → (fields : Fields σ τ) → {slots slots' : τ} →
    fields.SameFilled slots slots' →
    Agree (LayoutError.Alike Like) Unrelated (fields.settle slots) (fields.settle slots')
  | _, _, .nil, _, _, _ => .ok trivial
  | _, _, .cons field others, (slot, slots), (slot', slots'), filled => by
      obtain ⟨same, rest⟩ : slot.isSome = slot'.isSome ∧ others.SameFilled slots slots' := filled
      have tail := others.settle_alike rest
      cases slot <;> cases slot' <;> simp at same
      case none.none =>
        simp only [Fields.settle, Option.none_or]
        cases field.missing? with
        | none => exact .error (.same _)
        | some component => exact tail.bind fun _ _ _ => .ok trivial
      case some.some => exact tail.bind fun _ _ _ => .ok trivial

mutual

/-- Alike data is read or refused alike. -/
theorem Layout.read_alike : {α : Type} → (layout : Layout α) → layout.isPlain = true →
    {data data' : Json} → data.Alike Like data' →
    Agree (LayoutError.Alike Like) Unrelated (layout.read .value data.draft)
      (layout.read .value data'.draft)
  | _, .integer, _, _, _, alike =>
    (readInteger_alike alike (by decide) _ _).bind fun _ _ _ => .ok trivial
  | _, .word16, _, _, _, alike =>
    (readInteger_alike alike (by decide) _ _).bind fun _ _ _ => .ok trivial
  | _, .word32, _, _, _, alike =>
    (readInteger_alike alike (by decide) _ _).bind fun _ _ _ => .ok trivial
  | _, .word64, _, _, _, alike =>
    (readInteger_alike alike (by decide) _ _).bind fun _ _ _ => .ok trivial
  | _, .boolean, _, _, _, alike => by
      cases alike with
      | boolean => exact .ok trivial
      | text like => exact .error (.text like (by decide))
      | null | integer | double | list | object => exact .error (.same _)
  | _, .text, _, _, _, alike => readText_alike alike
  | _, .path, _, _, _, alike => readText_alike alike
  | _, .anything, _, data, data', alike => by
      simp only [Layout.read, Json.toJson_draft_value]
      exact .ok trivial
  | _, .list item, plain, _, _, alike => by
      rw [Layout.isPlain] at plain
      cases alike with
      | list items =>
          have read := mapM_alike (fun alike => item.read_alike plain alike) items
          exact read.bind fun _ _ _ => .ok trivial
      | text like => exact .error (.text like (by decide))
      | null | boolean | integer | double | object => exact .error (.same _)
  | _, .record name guarded fields pack _ _, plain, _, _, alike => by
      rw [Layout.isPlain, Bool.and_eq_true, decide_eq_true_eq] at plain
      cases alike with
      | object members =>
          have read := foldlM_alike
            (fun key alike filled => fields.readMember_alike plain.2
              (if guarded then some fields.names else none) key alike filled)
            members (fields.sameFilled_refl fields.vacant)
          exact read.bind fun _ _ filled =>
            (fields.settle_alike filled).bind fun _ _ _ => .ok trivial
      | list items =>
          have read := fields.readItems_alike plain.2 name fields.names.length 0 items
          -- What is left of the lists may differ, but not whether anything is left.
          refine read.bind fun (_, surplus) (_, surplus') same => ?_
          cases surplus <;> cases surplus' <;> simp at same
          · exact .ok trivial
          · simp only [Medium.endList, items.length_eq]
            exact .error (.same _)
      | text like => exact .error (.text like plain.1)
      | null | boolean | integer | double => exact .error (.same _)

theorem Field.read_alike : {α : Type} → (field : Field α) → field.isPlain = true →
    {data data' : Json} → data.Alike Like data' →
    Agree (LayoutError.Alike Like) Unrelated (field.read .value data.draft)
      (field.read .value data'.draft)
  | _, .required _ layout, plain, _, _, alike => layout.read_alike plain alike
  | _, .defaulted _ layout _, plain, _, _, alike => layout.read_alike plain alike
  | _, .optional _ layout, plain, _, _, alike => by
      have read := layout.read_alike plain alike
      cases alike with
      | null => exact .ok trivial
      | _ => exact read.map fun _ _ _ => trivial
  | _, .nullable _ layout _, plain, _, _, alike => by
      have read := layout.read_alike plain alike
      cases alike with
      | null => exact .ok trivial
      | _ => exact read.map fun _ _ _ => trivial

theorem Fields.readMember_alike : {σ τ : Type} → (fields : Fields σ τ) → fields.isPlain = true →
    (known : Option (List String)) → (key : String) →
    {data data' : Json} → data.Alike Like data' →
    {slots slots' : τ} → fields.SameFilled slots slots' →
    Agree (LayoutError.Alike Like) fields.SameFilled
      (fields.readMember known .value (.plain key) data.draft slots)
      (fields.readMember known .value (.plain key) data'.draft slots')
  | _, _, .nil, _, known, key, data, data', _, _, _, _ => by
      cases known with
      | some names => exact .error (.same _)
      | none =>
          simp only [Fields.readMember, Json.pass_draft]
          exact .ok trivial
  | _, _, .cons field others, plain, known, key, _, _, alike, (slot, slots), (slot', slots'),
      filled => by
      obtain ⟨same, rest⟩ : slot.isSome = slot'.isSome ∧ others.SameFilled slots slots' := filled
      rw [Fields.isPlain, Bool.and_eq_true] at plain
      by_cases named : key = field.name
      · have here := field.read_alike plain.1 alike
        cases slot <;> cases slot' <;> simp at same
        case none.none =>
          rw [readMember_named named, readMember_named named]
          exact here.map fun _ _ _ => ⟨rfl, rest⟩
        case some.some =>
          rw [readMember_repeated named, readMember_repeated named]
          exact .error (.same _)
      · have beyond := others.readMember_alike plain.2 known key alike rest
        rw [readMember_other named, readMember_other named]
        exact beyond.map fun _ _ filled => ⟨same, filled⟩

theorem Fields.readItems_alike : {σ τ : Type} → (fields : Fields σ τ) → fields.isPlain = true →
    (record : String) → (size place : Nat) →
    {items items' : List Json} → Json.AlikeItems Like items items' →
    Agree (LayoutError.Alike Like) (fun read read' => read.2.length = read'.2.length)
      (fields.readItems .value record size place (Json.draftItems items) .closed)
      (fields.readItems .value record size place (Json.draftItems items') .closed)
  | _, _, .nil, _, _, _, _, _, _, alike => .ok alike.length_eq
  | _, _, .cons field others, plain, record, size, place, _, _, alike => by
      rw [Fields.isPlain, Bool.and_eq_true] at plain
      cases alike with
      | nil => exact .refl .same (fun read => Eq.refl read.2.length) _
      | cons first rest =>
          have beyond := others.readItems_alike plain.2 record size (place + 1) rest
          exact (field.read_alike plain.1 first).bind fun _ _ _ =>
            beyond.bind fun _ _ same => .ok same

end

end Layouts

theorem fromJson_alike [HasLayout α] (plain : (HasLayout.layout : Layout α).isPlain = true)
    {data data' : Json} (alike : data.Alike Like data') :
    Agree (LayoutError.Alike Like) Unrelated (fromJson data : Except LayoutError α)
      (fromJson data' : Except LayoutError α) :=
  HasLayout.layout.read_alike plain alike

end Debuggee
