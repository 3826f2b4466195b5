import Debuggee.Proofs.Json.Render
import Debuggee.Proofs.Layout.Shows

/-!
Writing by a layout. What is written shows the value that was written, also once it has been sorted,
and so reading gives that value back. Free data is written as it is: what holds of it and of all
that a layout adds to it holds of the whole.
-/

namespace Debuggee

variable {α σ τ : Type}

mutual

/-- All the free data in a value has a property. -/
def Layout.Bears (Good : Json → Prop) : {α : Type} → Layout α → α → Prop
  | _, .integer, _ | _, .word16, _ | _, .word32, _ | _, .word64, _ => True
  | _, .boolean, _ | _, .text, _ | _, .path, _ => True
  | _, .anything, data => Good data
  | _, .list item, values => ∀ value ∈ values, item.Bears Good value
  | _, .record _ _ fields _ unpack _, value => fields.Bears Good (unpack value)

def Field.Bears (Good : Json → Prop) : {α : Type} → Field α → α → Prop
  | _, .required _ layout, component => layout.Bears Good component
  | _, .defaulted _ layout _, component => layout.Bears Good component
  | _, .optional _ layout, component => ∀ value ∈ component, layout.Bears Good value
  | _, .nullable _ layout _, component => ∀ value ∈ component, layout.Bears Good value

def Fields.Bears (Good : Json → Prop) : {σ τ : Type} → Fields σ τ → σ → Prop
  | _, _, .nil, _ => True
  | _, _, .cons field others, (component, components) =>
    field.Bears Good component ∧ others.Bears Good components

end

mutual

def Layout.isClosed : {α : Type} → Layout α → Bool
  | _, .integer | _, .word16 | _, .word32 | _, .word64 => true
  | _, .boolean | _, .text | _, .path => true
  | _, .anything => false
  | _, .list item => item.isClosed
  | _, .record _ _ fields _ _ _ => fields.isClosed

def Field.isClosed : {α : Type} → Field α → Bool
  | _, .required _ layout => layout.isClosed
  | _, .defaulted _ layout _ => layout.isClosed
  | _, .optional _ layout => layout.isClosed
  | _, .nullable _ layout _ => layout.isClosed

def Fields.isClosed : {σ τ : Type} → Fields σ τ → Bool
  | _, _, .nil => true
  | _, _, .cons field others => field.isClosed && others.isClosed

end

mutual

theorem Layout.bears_of_isClosed {Good : Json → Prop} : {α : Type} → (layout : Layout α) →
    layout.isClosed = true → (value : α) → layout.Bears Good value
  | _, .integer, _, _ | _, .word16, _, _ | _, .word32, _, _ | _, .word64, _, _ => trivial
  | _, .boolean, _, _ | _, .text, _, _ | _, .path, _, _ => trivial
  | _, .list item, closed, _ => fun value _ => item.bears_of_isClosed closed value
  | _, .record _ _ fields _ unpack _, closed, value =>
    fields.bears_of_isClosed closed (unpack value)

theorem Field.bears_of_isClosed {Good : Json → Prop} : {α : Type} → (field : Field α) →
    field.isClosed = true → (component : α) → field.Bears Good component
  | _, .required _ layout, closed, component => layout.bears_of_isClosed closed component
  | _, .defaulted _ layout _, closed, component => layout.bears_of_isClosed closed component
  | _, .optional _ layout, closed, _ => fun value _ => layout.bears_of_isClosed closed value
  | _, .nullable _ layout _, closed, _ => fun value _ => layout.bears_of_isClosed closed value

theorem Fields.bears_of_isClosed {Good : Json → Prop} : {σ τ : Type} → (fields : Fields σ τ) →
    fields.isClosed = true → (components : σ) → fields.Bears Good components
  | _, _, .nil, _, _ => trivial
  | _, _, .cons field others, closed, (component, components) => by
      rw [Fields.isClosed, Bool.and_eq_true] at closed
      exact ⟨field.bears_of_isClosed closed.1 component,
        others.bears_of_isClosed closed.2 components⟩

end

section Keys

theorem Fields.keys_write : {σ τ : Type} → (fields : Fields σ τ) → (components : σ) →
    ((fields.write components).map Prod.fst).Sublist fields.names
  | _, _, .nil, _ => List.Sublist.refl []
  | _, _, .cons field others, (component, components) => by
      have later := others.keys_write components
      rw [Fields.write, Fields.names]
      split
      · exact later.cons_cons field.name
      · exact later.cons field.name

variable {field : Field α} {others : Fields σ τ} {component : α} {components : σ}

theorem lookup_write_self (unlike : field.name ∉ others.names) :
    ((Fields.cons field others).write (component, components)).lookup field.name =
      field.write component := by
  rw [Fields.write]
  split
  · rename_i written
    rw [List.lookup_cons_self, written]
  · rename_i written
    rw [written]
    apply Json.lookup_eq_none_of_not_mem
    exact fun belongs => unlike ((others.keys_write components).subset belongs)

theorem lookup_write_other {name : String} (differ : name ≠ field.name) :
    ((Fields.cons field others).write (component, components)).lookup name =
      (others.write components).lookup name := by
  rw [Fields.write]
  split
  · exact Json.lookup_other differ
  · rfl

end Keys

section Hereditary

structure Hereditary (Good : Json → Prop) : Prop where
  null : Good .null
  boolean : ∀ value, Good (.boolean value)
  integer : ∀ value, Json.IsExact value → Good (.integer value)
  text : ∀ value, Good (.text value)
  list : ∀ items, (∀ item ∈ items, Good item) → Good (.list items)
  object : ∀ members, (members.map Prod.fst).Nodup → (∀ member ∈ members, Good member.2) →
    Good (.object members)

theorem hereditary_exact : Hereditary Json.Exact where
  null := .null
  boolean := .boolean
  integer _ exact := .integer exact
  text := .text
  list _ := .list
  object _ _ := .object

theorem hereditary_distinct : Hereditary Json.Distinct where
  null := .null
  boolean := .boolean
  integer value _ := .integer value
  text := .text
  list _ := .list
  object _ := .object

theorem isExact_of_word {value : Nat} (word : value < UInt64.size) : Json.IsExact value := by
  simp only [UInt64.size] at word
  constructor <;> omega

theorem isExact_toInt (value : Int64) : Json.IsExact value.toInt := by
  have low := value.minValue_le_toInt
  have high := value.toInt_le
  have least : Int64.minValue.toInt = -(2 ^ 63) := rfl
  have greatest : Int64.maxValue.toInt = 2 ^ 63 - 1 := rfl
  constructor <;> omega

variable {Good : Json → Prop}

mutual

theorem Layout.good_write (hereditary : Hereditary Good) : {α : Type} → (layout : Layout α) →
    layout.isDistinct = true →
    {value : α} → layout.Bears Good value → Good (layout.write value)
  | _, .integer, _, value, _ => hereditary.integer _ (isExact_toInt value)
  | _, .word16, _, value, _ =>
    hereditary.integer _ (isExact_of_word (value.toNat_lt.trans (by decide)))
  | _, .word32, _, value, _ =>
    hereditary.integer _ (isExact_of_word (value.toNat_lt.trans (by decide)))
  | _, .word64, _, value, _ => hereditary.integer _ (isExact_of_word value.toNat_lt)
  | _, .boolean, _, value, _ => hereditary.boolean value
  | _, .text, _, value, _ => hereditary.text value
  | _, .path, _, value, _ => hereditary.text value
  | _, .anything, _, _, bears => bears
  | _, .list item, tidy, _, bears =>
    hereditary.list _ (List.forall_mem_map.mpr fun value belongs =>
      item.good_write hereditary tidy (bears value belongs))
  | _, .record _ _ fields _ unpack _, tidy, value, bears => by
      rw [Layout.isDistinct, Bool.and_eq_true, decide_eq_true_eq] at tidy
      exact hereditary.object _ (tidy.1.sublist (fields.keys_write (unpack value)))
        (fields.good_write hereditary tidy.2 bears)

theorem Field.good_write (hereditary : Hereditary Good) : {α : Type} → (field : Field α) →
    field.isDistinct = true →
    {component : α} → field.Bears Good component → ∀ data ∈ field.write component, Good data
  | _, .required _ layout, tidy, _, bears => by
      rintro _ ⟨⟩
      exact layout.good_write hereditary tidy bears
  | _, .defaulted _ layout _, tidy, _, bears => by
      rintro _ ⟨⟩
      exact layout.good_write hereditary tidy bears
  | _, .optional _ layout, tidy, _, bears => by
      intro data written
      obtain ⟨value, present, rfl⟩ := Option.map_eq_some_iff.mp written
      exact layout.good_write hereditary tidy (bears value present)
  | _, .nullable _ layout _, tidy, component, bears => by
      rintro _ ⟨⟩
      cases component with
      | none => exact hereditary.null
      | some value => exact layout.good_write hereditary tidy (bears value rfl)

theorem Fields.good_write (hereditary : Hereditary Good) : {σ τ : Type} → (fields : Fields σ τ) →
    fields.isDistinct = true →
    {components : σ} → fields.Bears Good components →
    ∀ member ∈ fields.write components, Good member.2
  | _, _, .nil, _, _, _ => by simp [Fields.write]
  | _, _, .cons field others, tidy, (component, components), bears => by
      rw [Fields.isDistinct, Bool.and_eq_true] at tidy
      have later := others.good_write hereditary tidy.2 bears.2
      rw [Fields.write]
      split
      · rename_i written
        exact List.forall_mem_cons.mpr ⟨field.good_write hereditary tidy.1 bears.1 _ written, later⟩
      · exact later

end

end Hereditary

section Levels

mutual

def Layout.levels : {α : Type} → Layout α → Nat
  | _, .integer | _, .word16 | _, .word32 | _, .word64 => 0
  | _, .boolean | _, .text | _, .path | _, .anything => 0
  | _, .list item => item.levels + 1
  | _, .record _ _ fields _ _ _ => fields.levels + 1

def Field.levels : {α : Type} → Field α → Nat
  | _, .required _ layout => layout.levels
  | _, .defaulted _ layout _ => layout.levels
  | _, .optional _ layout => layout.levels
  | _, .nullable _ layout _ => layout.levels

def Fields.levels : {σ τ : Type} → Fields σ τ → Nat
  | _, _, .nil => 0
  | _, _, .cons field others => max field.levels others.levels

end

variable {free : Nat}

mutual

theorem Layout.depth_write : {α : Type} → (layout : Layout α) → {value : α} →
    layout.Bears (fun data => data.depth ≤ free) value →
    (layout.write value).depth ≤ layout.levels + free
  | _, .integer, _, _ | _, .word16, _, _ | _, .word32, _, _ | _, .word64, _, _ => Nat.zero_le _
  | _, .boolean, _, _ | _, .text, _, _ | _, .path, _, _ => Nat.zero_le _
  | _, .anything, _, bears => by
      rw [Layout.levels, Nat.zero_add]
      exact bears
  | _, .list item, _, bears => by
      rw [Layout.levels, Layout.write, Json.depth, Nat.add_right_comm]
      apply Nat.succ_le_succ
      rw [Json.depthItems_le_iff, List.forall_mem_map]
      exact fun value belongs => item.depth_write (bears value belongs)
  | _, .record _ _ fields _ _ _, _, bears => by
      rw [Layout.levels, Layout.write, Json.depth, Nat.add_right_comm]
      apply Nat.succ_le_succ
      rw [Json.depthMembers_le_iff]
      exact fields.depth_write bears

theorem Field.depth_write : {α : Type} → (field : Field α) → {component : α} →
    field.Bears (fun data => data.depth ≤ free) component →
    ∀ data ∈ field.write component, data.depth ≤ field.levels + free
  | _, .required _ layout, _, bears => by
      rintro _ ⟨⟩
      exact layout.depth_write bears
  | _, .defaulted _ layout _, _, bears => by
      rintro _ ⟨⟩
      exact layout.depth_write bears
  | _, .optional _ layout, _, bears => by
      intro data written
      obtain ⟨value, present, rfl⟩ := Option.map_eq_some_iff.mp written
      exact layout.depth_write (bears value present)
  | _, .nullable _ layout _, component, bears => by
      rintro _ ⟨⟩
      cases component with
      | none => exact Nat.zero_le _
      | some value => exact layout.depth_write (bears value rfl)

theorem Fields.depth_write : {σ τ : Type} → (fields : Fields σ τ) → {components : σ} →
    fields.Bears (fun data => data.depth ≤ free) components →
    ∀ member ∈ fields.write components, member.2.depth ≤ fields.levels + free
  | _, _, .nil, _, _ => by simp [Fields.write]
  | _, _, .cons field others, (component, components), bears => by
      have later := others.depth_write bears.2
      have wider : ∀ member ∈ others.write components,
          member.2.depth ≤ max field.levels others.levels + free := by
        intro member belongs
        have bound := later member belongs
        omega
      rw [Fields.write, Fields.levels]
      split
      · rename_i written
        have bound := field.depth_write bears.1 _ written
        exact List.forall_mem_cons.mpr ⟨by simp only; omega, wider⟩
      · exact wider

end

end Levels

section Shows

/-- Free data as values hold it: sorted, and where it may be missing not null. -/
def Json.Settled (data : Json) : Prop :=
  data.sorted = data ∧ data ≠ .null

theorem Layout.write_ne_null : (layout : Layout α) → {value : α} →
    layout.Bears Json.Settled value → layout.write value ≠ .null := by
  intro layout value bears
  cases layout with
  | anything => exact bears.2
  | _ => exact Json.noConfusion

mutual

theorem Layout.shows_write : {α : Type} → (layout : Layout α) → layout.isDistinct = true →
    {value : α} → layout.Bears Json.Settled value → layout.Shows value (layout.write value)
  | _, .integer, _, _, _ | _, .word16, _, _, _ | _, .word32, _, _, _ | _, .word64, _, _, _ => rfl
  | _, .boolean, _, _, _ | _, .text, _, _, _ | _, .path, _, _, _ => rfl
  | _, .anything, _, _, bears => bears.1
  | _, .list item, tidy, values, bears => by
      refine ⟨values.map item.write, rfl, ?_⟩
      rw [List.forall₂_map_right_iff, List.forall₂_same]
      exact fun value belongs => item.shows_write tidy (bears value belongs)
  | _, .record _ _ fields _ unpack _, tidy, value, bears => by
      rw [Layout.isDistinct, Bool.and_eq_true, decide_eq_true_eq] at tidy
      refine ⟨fields.write (unpack value), rfl, ?_, fields.shows_write tidy.2 tidy.1 bears⟩
      intro _ member belongs
      exact (fields.keys_write (unpack value)).subset (List.mem_map_of_mem belongs)

theorem Field.shows_write : {α : Type} → (field : Field α) → field.isDistinct = true →
    {component : α} → field.Bears Json.Settled component →
    field.Shows component (field.write component)
  | _, .required _ layout, tidy, _, bears => ⟨_, rfl, layout.shows_write tidy bears⟩
  | _, .defaulted _ layout _, tidy, _, bears => layout.shows_write tidy bears
  | _, .optional _ layout, tidy, component, bears => by
      cases component with
      | none => exact Or.inl rfl
      | some value =>
          exact ⟨_, rfl, layout.write_ne_null (bears value rfl),
            layout.shows_write tidy (bears value rfl)⟩
  | _, .nullable _ layout _, tidy, component, bears => by
      cases component with
      | none => exact Or.inr rfl
      | some value =>
          exact ⟨_, rfl, layout.write_ne_null (bears value rfl),
            layout.shows_write tidy (bears value rfl)⟩

theorem Fields.shows_write : {σ τ : Type} → (fields : Fields σ τ) → fields.isDistinct = true →
    fields.names.Nodup → {components : σ} → fields.Bears Json.Settled components →
    fields.Shows components (fields.write components)
  | _, _, .nil, _, _, _, _ => trivial
  | _, _, .cons field others, tidy, names, (component, components), bears => by
      obtain ⟨unlike, names⟩ := List.nodup_cons.mp names
      rw [Fields.isDistinct, Bool.and_eq_true] at tidy
      refine ⟨?_, others.shows_congr (others.shows_write tidy.2 names bears.2) ?_⟩
      · rw [lookup_write_self unlike]
        exact field.shows_write tidy.1 bears.1
      · intro name belongs
        exact lookup_write_other fun same => unlike (same ▸ belongs)

end

theorem Json.sorted_eq_null_iff {data : Json} : data.sorted = .null ↔ data = .null := by
  cases data <;> simp [Json.sorted]

theorem forall₂_shows_sorted_iff {item : Layout α} {values : List α} {items : List Json}
    (each : ∀ data ∈ items, ∀ value, item.Shows value data.sorted ↔ item.Shows value data) :
    List.Forall₂ item.Shows values (items.map Json.sorted) ↔
      List.Forall₂ item.Shows values items := by
  induction items generalizing values with
  | nil => exact Iff.rfl
  | cons data items ih =>
      have later : ∀ values, List.Forall₂ item.Shows values (items.map Json.sorted) ↔
          List.Forall₂ item.Shows values items := by
        intro values
        exact ih fun other belongs => each other (List.mem_cons_of_mem _ belongs)
      cases values with
      | nil => simp
      | cons value values =>
          rw [List.map_cons, List.forall₂_cons, List.forall₂_cons, later,
            each data List.mem_cons_self]

theorem shows_some_sorted_iff {layout : Layout α} {value : α} {found : Option Json}
    (each : ∀ data ∈ found, layout.Shows value data.sorted ↔ layout.Shows value data) :
    (∃ data, found.map Json.sorted = some data ∧ data ≠ .null ∧ layout.Shows value data) ↔
      ∃ data, found = some data ∧ data ≠ .null ∧ layout.Shows value data := by
  cases found with
  | none => simp
  | some data => simp [each data rfl, Json.sorted_eq_null_iff]

theorem shows_none_sorted_iff {found : Option Json} :
    (found.map Json.sorted = none ∨ found.map Json.sorted = some .null) ↔
      (found = none ∨ found = some .null) := by
  cases found <;> simp [Json.sorted_eq_null_iff]

mutual

theorem Layout.shows_sorted_iff : {α : Type} → (layout : Layout α) → {value : α} →
    {data : Json} → data.Distinct → (layout.Shows value data.sorted ↔ layout.Shows value data)
  | _, .integer, _, data, _ => by cases data <;> simp [Layout.Shows, Json.sorted]
  | _, .word16, _, data, _ => by cases data <;> simp [Layout.Shows, Json.sorted]
  | _, .word32, _, data, _ => by cases data <;> simp [Layout.Shows, Json.sorted]
  | _, .word64, _, data, _ => by cases data <;> simp [Layout.Shows, Json.sorted]
  | _, .boolean, _, data, _ => by cases data <;> simp [Layout.Shows, Json.sorted]
  | _, .text, _, data, _ => by cases data <;> simp [Layout.Shows, Json.sorted]
  | _, .path, _, data, _ => by cases data <;> simp [Layout.Shows, Json.sorted]
  | _, .anything, _, data, _ => by rw [Layout.Shows, Layout.Shows, data.sorted_sorted]
  | _, .list item, values, data, distinct => by
      cases distinct with
      | list each =>
          have same : List.Forall₂ item.Shows values (_ : List Json) ↔ _ :=
            forall₂_shows_sorted_iff fun data belongs _ => item.shows_sorted_iff (each data belongs)
          simp [Layout.Shows, Json.sorted, Json.sortedItems_eq_map, same]
      | _ => simp [Layout.Shows, Json.sorted]
  | _, .record _ guarded fields _ unpack _, value, data, distinct => by
      cases distinct with
      | object keys each =>
          have same : fields.Shows (unpack value) _ ↔ _ := fields.shows_sorted_iff keys each
          simp only [Layout.Shows, Json.sorted, Json.object.injEq, exists_eq_left', same,
            Json.forall_key_sortedMembers_iff keys]
      | _ => simp [Layout.Shows, Json.sorted]

theorem Field.shows_sorted_iff : {α : Type} → (field : Field α) → {component : α} →
    {found : Option Json} → (∀ data ∈ found, data.Distinct) →
    (field.Shows component (found.map Json.sorted) ↔ field.Shows component found)
  | _, .required _ layout, component, found, distinct => by
      cases found with
      | none => simp [Field.Shows]
      | some data =>
          have same : layout.Shows component _ ↔ _ := layout.shows_sorted_iff (distinct data rfl)
          simp [Field.Shows, same]
  | _, .defaulted _ layout _, _, found, distinct => by
      cases found with
      | none => exact Iff.rfl
      | some data => exact layout.shows_sorted_iff (distinct data rfl)
  | _, .optional _ layout, component, found, distinct => by
      cases component with
      | none => exact shows_none_sorted_iff
      | some value =>
          exact shows_some_sorted_iff fun data present =>
            layout.shows_sorted_iff (distinct data present)
  | _, .nullable _ layout _, component, found, distinct => by
      cases component with
      | none => exact shows_none_sorted_iff
      | some value =>
          exact shows_some_sorted_iff fun data present =>
            layout.shows_sorted_iff (distinct data present)

theorem Fields.shows_sorted_iff : {σ τ : Type} → (fields : Fields σ τ) → {components : σ} →
    {members : List (String × Json)} → (members.map Prod.fst).Nodup →
    (∀ member ∈ members, member.2.Distinct) →
    (fields.Shows components (Json.sortedMembers members []) ↔ fields.Shows components members)
  | _, _, .nil, _, _, _, _ => Iff.rfl
  | _, _, .cons field others, (component, components), members, keys, each => by
      have found : ∀ data ∈ members.lookup field.name, data.Distinct := by
        intro data found
        exact each _ (Json.mem_of_lookup found)
      have first : field.Shows component _ ↔ _ := field.shows_sorted_iff found
      have later : others.Shows components _ ↔ _ := others.shows_sorted_iff keys each
      rw [Fields.Shows, Fields.Shows, later, Json.lookup_sortedMembers keys, List.lookup_nil,
        Option.or_none, first]

end

/-- A value is read back from what was written, also once that has been sorted. -/
theorem Layout.read_sorted_write (layout : Layout α) (tidy : layout.isDistinct = true) {value : α}
    (settled : layout.Bears Json.Settled value) (distinct : layout.Bears Json.Distinct value) :
    layout.read .value (layout.write value).sorted.draft = .ok value := by
  have whole := layout.good_write hereditary_distinct tidy distinct
  apply layout.read_of_shows tidy (Json.distinct_sorted _) rfl
  exact (layout.shows_sorted_iff whole).mpr (layout.shows_write tidy settled)

theorem fromJson_sorted_toJson [HasLayout α] (tidy : (HasLayout.layout : Layout α).isDistinct = true)
    (closed : (HasLayout.layout : Layout α).isClosed = true) (value : α) :
    fromJson (toJson value).sorted = .ok value :=
  HasLayout.layout.read_sorted_write tidy (HasLayout.layout.bears_of_isClosed closed value)
    (HasLayout.layout.bears_of_isClosed closed value)

end Shows

end Debuggee
