import Debuggee.Layout.Read
import Debuggee.Proofs.Json.Sorted

/-!
How data that has no fault is read. As a whole it comes out sorted, and it is refused exactly where
it is nested deeper than its medium allows; whoever passes over it does not care. A member of an
object is read by the field of its name.
-/

namespace Debuggee

namespace Medium

def admits : Medium → Nat → Bool
  | .text levels, depth => decide (depth ≤ levels)
  | .value, _ => true
  | .document, _ => true

@[simp] theorem admits_zero (medium : Medium) : medium.admits 0 = true := by
  cases medium <;> simp [admits]

theorem admits_max (medium : Medium) (first second : Nat) :
    medium.admits (max first second) = (medium.admits first && medium.admits second) := by
  cases medium <;> simp [admits]

theorem enter_cases (medium : Medium) :
    (∃ inside, medium.enter = .ok inside ∧
      ∀ depth, medium.admits (depth + 1) = inside.admits depth) ∨
      (medium.enter = .error (.fault .tooDeep) ∧ ∀ depth, medium.admits (depth + 1) = false) := by
  cases medium with
  | text levels =>
      cases levels with
      | zero => exact Or.inr ⟨rfl, by simp [admits]⟩
      | succ levels => exact Or.inl ⟨.text levels, rfl, by simp [admits]⟩
  | value => exact Or.inl ⟨.value, rfl, fun _ => rfl⟩
  | document => exact Or.inl ⟨.document, rfl, fun _ => rfl⟩

theorem admits_of_le {medium : Medium} {depth deeper : Nat} (le : depth ≤ deeper)
    (admitted : medium.admits deeper = true) : medium.admits depth = true := by
  have whole := medium.admits_max depth deeper
  rw [Nat.max_eq_right le, admitted] at whole
  exact (Bool.and_eq_true_iff.mp whole.symm).1

end Medium

namespace Json

theorem draftItems_eq_map (items : List Json) : draftItems items = items.map draft := by
  induction items with
  | nil => rfl
  | cons item items ih => rw [draftItems, ih, List.map_cons]

theorem draftMembers_eq_map (members : List (String × Json)) :
    draftMembers members = members.map fun member => (.plain member.1, member.2.draft) := by
  induction members with
  | nil => rfl
  | cons member members ih => rw [draftMembers, ih, List.map_cons]

def readWhole (medium : Medium) (depth : Nat) (read : α) : Except LayoutError α :=
  if medium.admits depth then .ok read else .error (.fault .tooDeep)

variable {items : List Json} {members : List (String × Json)} {medium : Medium}

theorem itemsToJson_draftItems
    (each : ∀ item ∈ items, item.draft.toJson medium = readWhole medium item.depth item.sorted) :
    Draft.itemsToJson (draftItems items) medium =
      readWhole medium (depthItems items) (sortedItems items) := by
  induction items with
  | nil => simp [draftItems, Draft.itemsToJson, readWhole, depthItems, sortedItems]
  | cons item items ih =>
      have later := ih fun other belongs => each other (List.mem_cons_of_mem _ belongs)
      rw [draftItems, Draft.itemsToJson, each item (by simp), later, depthItems, sortedItems]
      simp only [readWhole, medium.admits_max]
      cases medium.admits item.depth
      · rfl
      · cases medium.admits (depthItems items) <;> rfl

theorem membersToJson_draftMembers
    (each : ∀ member ∈ members,
      member.2.draft.toJson medium = readWhole medium member.2.depth member.2.sorted)
    (done : List (String × Json)) :
    Draft.membersToJson (draftMembers members) medium done =
      readWhole medium (depthMembers members) (sortedMembers members done) := by
  induction members generalizing done with
  | nil => simp [draftMembers, Draft.membersToJson, readWhole, depthMembers, sortedMembers]
  | cons member members ih =>
      have later := ih fun other belongs => each other (List.mem_cons_of_mem _ belongs)
      rw [draftMembers, Draft.membersToJson, each member (by simp), depthMembers, sortedMembers]
      simp only [readWhole, medium.admits_max] at later ⊢
      cases medium.admits member.2.depth
      · rfl
      · exact later _

/-- Data is read as a whole, and comes out sorted, unless it is nested too deep. -/
theorem toJson_draft (data : Json) (medium : Medium) :
    data.draft.toJson medium = readWhole medium data.depth data.sorted := by
  induction data using nested generalizing medium with
  | null | boolean | integer | double | text => simp [readWhole, depth, draft, sorted]; rfl
  | list items ih =>
      rw [draft, Draft.toJson, depth, sorted, readWhole]
      rcases medium.enter_cases with ⟨inside, entered, same⟩ | ⟨refused, never⟩
      · have read := itemsToJson_draftItems fun item belongs => ih item belongs inside
        rw [entered, same]
        simp only [bind, Except.bind, read, readWhole]
        cases inside.admits (depthItems items) <;> rfl
      · rw [refused, never]
        rfl
  | object members ih =>
      rw [draft, Draft.toJson, depth, sorted, readWhole]
      rcases medium.enter_cases with ⟨inside, entered, same⟩ | ⟨refused, never⟩
      · have read := membersToJson_draftMembers (fun member belongs => ih member belongs inside) []
        rw [entered, same]
        simp only [bind, Except.bind, read, readWhole]
        cases inside.admits (depthMembers members) <;> rfl
      · rw [refused, never]
        rfl

theorem toJson_draft_value (data : Json) : data.draft.toJson .value = .ok data.sorted :=
  data.toJson_draft .value

theorem passItems_draftItems (each : ∀ item ∈ items, item.draft.pass = .ok ()) :
    Draft.passItems (draftItems items) = .ok () := by
  induction items with
  | nil => rfl
  | cons item items ih =>
      rw [draftItems, Draft.passItems, each item (by simp)]
      exact ih fun other belongs => each other (List.mem_cons_of_mem _ belongs)

theorem passMembers_draftMembers (each : ∀ member ∈ members, member.2.draft.pass = .ok ()) :
    Draft.passMembers (draftMembers members) = .ok () := by
  induction members with
  | nil => rfl
  | cons member members ih =>
      rw [draftMembers, Draft.passMembers, each member (by simp)]
      exact ih fun other belongs => each other (List.mem_cons_of_mem _ belongs)

theorem pass_draft (data : Json) : data.draft.pass = .ok () := by
  induction data using nested with
  | null | boolean | integer | double | text => rfl
  | list items ih =>
      rw [draft, Draft.pass, passItems_draftItems ih]
      rfl
  | object members ih =>
      rw [draft, Draft.pass, passMembers_draftMembers ih]
      rfl

end Json

section Members

variable {α σ τ : Type} {field : Field α} {others : Fields σ τ} {known : Option (List String)}
  {medium : Medium} {key : String} {draft : Draft} {slot : Option α} {slots : τ}

theorem readMember_named (named : key = field.name) :
    (Fields.cons field others).readMember known medium (.plain key) draft (none, slots) =
      (field.read medium draft).map fun component => (some component, slots) :=
  if_pos named

theorem readMember_repeated (named : key = field.name) {component : α} :
    (Fields.cons field others).readMember known medium (.plain key) draft (some component, slots) =
      .error (.duplicateField key) :=
  if_pos named

theorem readMember_other (named : key ≠ field.name) :
    (Fields.cons field others).readMember known medium (.plain key) draft (slot, slots) =
      (others.readMember known medium (.plain key) draft slots).map fun rest => (slot, rest) :=
  if_neg named

end Members

end Debuggee
