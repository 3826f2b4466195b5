import Debuggee.Proofs.Layout.Reading

/-!
Which data shows which value. What the layouts say is put here as a relation: an object shows a
record if each field finds its component under its name, wherever that stands among the members.
Reading gives the value that the data shows, and the order of the members does not matter to it.
-/

namespace Debuggee

variable {α σ τ : Type}

mutual

def Layout.Shows : {α : Type} → Layout α → α → Json → Prop
  | _, .integer, value, data => data = .integer value.toInt
  | _, .word16, value, data => data = .integer value.toNat
  | _, .word32, value, data => data = .integer value.toNat
  | _, .word64, value, data => data = .integer value.toNat
  | _, .boolean, value, data => data = .boolean value
  | _, .text, value, data => data = .text value
  | _, .path, value, data => data = .text value
  | _, .anything, value, data => data.sorted = value
  | _, .list item, values, data =>
      ∃ items, data = .list items ∧ List.Forall₂ item.Shows values items
  | _, .record _ guarded fields _ unpack _, value, data => ∃ members, data = .object members ∧
      (guarded = true → ∀ member ∈ members, member.1 ∈ fields.names) ∧
      fields.Shows (unpack value) members

def Field.Shows : {α : Type} → Field α → α → Option Json → Prop
  | _, .required _ layout, value, found => ∃ data, found = some data ∧ layout.Shows value data
  | _, .defaulted _ layout default, value, found =>
    match found with
    | none => value = default
    | some data => layout.Shows value data
  | _, .optional _ layout, value, found =>
    match value with
    | none => found = none ∨ found = some .null
    | some value => ∃ data, found = some data ∧ data ≠ .null ∧ layout.Shows value data
  | _, .nullable _ layout _, value, found =>
    match value with
    | none => found = none ∨ found = some .null
    | some value => ∃ data, found = some data ∧ data ≠ .null ∧ layout.Shows value data

def Fields.Shows : {σ τ : Type} → Fields σ τ → σ → List (String × Json) → Prop
  | _, _, .nil, _, _ => True
  | _, _, .cons field others, (component, components), members =>
    field.Shows component (members.lookup field.name) ∧ others.Shows components members

end

mutual

def Layout.isDistinct : {α : Type} → Layout α → Bool
  | _, .integer | _, .word16 | _, .word32 | _, .word64 => true
  | _, .boolean | _, .text | _, .path | _, .anything => true
  | _, .list item => item.isDistinct
  | _, .record _ _ fields _ _ _ => decide fields.names.Nodup && fields.isDistinct

def Field.isDistinct : {α : Type} → Field α → Bool
  | _, .required _ layout => layout.isDistinct
  | _, .defaulted _ layout _ => layout.isDistinct
  | _, .optional _ layout => layout.isDistinct
  | _, .nullable _ layout _ => layout.isDistinct

def Fields.isDistinct : {σ τ : Type} → Fields σ τ → Bool
  | _, _, .nil => true
  | _, _, .cons field others => field.isDistinct && others.isDistinct

end

section Members

theorem Fields.shows_congr : {σ τ : Type} → (fields : Fields σ τ) → {components : σ} →
    {members members' : List (String × Json)} → fields.Shows components members →
    (∀ name ∈ fields.names, members'.lookup name = members.lookup name) →
    fields.Shows components members'
  | _, _, .nil, _, _, _, _, _ => trivial
  | _, _, .cons field others, (_, _), members, members', shows, same => by
      refine ⟨?_, others.shows_congr shows.2 fun name belongs =>
        same name (List.mem_cons_of_mem _ belongs)⟩
      rw [same field.name List.mem_cons_self]
      exact shows.1

theorem Field.missing?_of_shows {field : Field α} {component : α}
    (shows : field.Shows component none) : field.missing? = some component := by
  cases field with
  | required =>
      obtain ⟨data, found, -⟩ := shows
      contradiction
  | defaulted => exact congrArg some shows.symm
  | optional =>
      cases component with
      | none => rfl
      | some component =>
          obtain ⟨data, found, -⟩ := shows
          contradiction
  | nullable =>
      cases component with
      | none => rfl
      | some component =>
          obtain ⟨data, found, -⟩ := shows
          contradiction

def Fields.readMembers (fields : Fields σ τ) (known : Option (List String)) (medium : Medium)
    (members : List (String × Json)) (slots : τ) : Except LayoutError τ :=
  (Json.draftMembers members).foldlM
    (fun slots member => fields.readMember known medium member.1 member.2 slots) slots

variable {fields : Fields σ τ} {field : Field α} {known : Option (List String)} {medium : Medium}

theorem Fields.readMembers_append (before after : List (String × Json)) (slots : τ) :
    fields.readMembers known medium (before ++ after) slots =
      fields.readMembers known medium before slots >>=
        fields.readMembers known medium after := by
  rw [readMembers, Json.draftMembers_eq_map, List.map_append, List.foldlM_append,
    ← Json.draftMembers_eq_map, ← Json.draftMembers_eq_map]
  rfl

theorem Fields.readMembers_cons (key : String) (value : Json) (members : List (String × Json))
    (slots : τ) : fields.readMembers known medium ((key, value) :: members) slots =
      fields.readMember known medium (.plain key) value.draft slots >>=
        fields.readMembers known medium members :=
  rfl

theorem Fields.readMembers_nil {members : List (String × Json)}
    (guard : ∀ names, known = some names → ∀ member ∈ members, member.1 ∈ Fields.nil.names) :
    Fields.nil.readMembers known medium members () = .ok () := by
  induction members with
  | nil => rfl
  | cons member members ih =>
      obtain ⟨key, value⟩ := member
      cases known with
      | none =>
          have passed : Fields.nil.readMember none medium (.plain key) value.draft () = .ok () := by
            change passing value.draft.pass = .ok ()
            rw [value.pass_draft]
            rfl
          rw [readMembers_cons, passed]
          exact ih fun names same => absurd same (by simp)
      | some names => exact absurd (guard names rfl _ List.mem_cons_self) (by simp [Fields.names])

theorem Fields.readMembers_others {members : List (String × Json)} {slot : Option α} {slots : τ}
    (unnamed : field.name ∉ members.map Prod.fst) :
    (Fields.cons field fields).readMembers known medium members (slot, slots) =
      (fields.readMembers known medium members slots).map fun rest => (slot, rest) := by
  induction members generalizing slots with
  | nil => rfl
  | cons member members ih =>
      obtain ⟨key, value⟩ := member
      simp only [List.map_cons, List.mem_cons, not_or] at unnamed
      rw [readMembers_cons, readMembers_cons, readMember_other (Ne.symm unnamed.1)]
      cases fields.readMember known medium (.plain key) value.draft slots with
      | error error => rfl
      | ok slots => exact ih unnamed.2

theorem Fields.readMembers_named {before after : List (String × Json)} {value : Json}
    {component : α} {slots : τ}
    (unnamedBefore : field.name ∉ before.map Prod.fst)
    (unnamedAfter : field.name ∉ after.map Prod.fst)
    (read : field.read medium value.draft = .ok component)
    (others : fields.readMembers known medium (before ++ after) fields.vacant = .ok slots) :
    (Fields.cons field fields).readMembers known medium (before ++ (field.name, value) :: after)
      (Fields.cons field fields).vacant = .ok (some component, slots) := by
  rw [readMembers_append] at others
  rw [readMembers_append, vacant, readMembers_others unnamedBefore]
  cases earlier : fields.readMembers known medium before fields.vacant with
  | error error =>
      rw [earlier] at others
      contradiction
  | ok between =>
      rw [earlier] at others
      change (Fields.cons field fields).readMembers known medium ((field.name, value) :: after)
        (none, between) = _
      rw [readMembers_cons, readMember_named rfl, read]
      change (Fields.cons field fields).readMembers known medium after (some component, between) = _
      rw [readMembers_others unnamedAfter]
      exact congrArg (Except.map fun rest => (some component, rest)) others

theorem read_record_refused {ρ : Type} {name key : String} {guarded : Bool} {pack : σ → ρ}
    {unpack : ρ → σ} {pack_unpack : ∀ value, pack (unpack value) = value} {inside : Medium}
    {before after : List (String × Json)} {value : Json} {slots : τ} {error : LayoutError}
    (entered : medium.enter = .ok inside)
    (read : fields.readMembers (if guarded then some fields.names else none) inside before
      fields.vacant = .ok slots)
    (refused : fields.readMember (if guarded then some fields.names else none) inside (.plain key)
      value.draft slots = .error error) :
    (Layout.record name guarded fields pack unpack pack_unpack).read medium
      (Json.object (before ++ (key, value) :: after)).draft = .error error := by
  have whole : fields.readMembers (if guarded then some fields.names else none) inside
      (before ++ (key, value) :: after) fields.vacant = .error error := by
    rw [Fields.readMembers_append, read]
    change fields.readMembers _ inside ((key, value) :: after) slots = _
    rw [Fields.readMembers_cons, refused]
    rfl
  rw [Fields.readMembers] at whole
  simp only [Json.draft, Layout.read, entered, bind, Except.bind, whole]

theorem Fields.known_others {members members' : List (String × Json)}
    (guard : ∀ names, known = some names →
      ∀ member ∈ members, member.1 ∈ (Fields.cons field fields).names)
    (subset : members' ⊆ members) (unnamed : field.name ∉ members'.map Prod.fst) :
    ∀ names, known = some names → ∀ member ∈ members', member.1 ∈ fields.names := by
  intro names same member belongs
  rcases List.mem_cons.mp (guard names same member (subset belongs)) with named | later
  · exact absurd (List.mem_map.mpr ⟨member, belongs, named⟩) unnamed
  · exact later

theorem lookup_cases {members : List (String × Json)} (keys : (members.map Prod.fst).Nodup)
    (name : String) :
    (members.lookup name = none ∧ name ∉ members.map Prod.fst) ∨
      ∃ before value after, members = before ++ (name, value) :: after ∧
        members.lookup name = some value ∧ name ∉ before.map Prod.fst ∧
        name ∉ after.map Prod.fst := by
  by_cases named : name ∈ members.map Prod.fst
  · obtain ⟨⟨key, value⟩, belongs, rfl⟩ := List.mem_map.mp named
    have found := Json.lookup_of_mem keys belongs
    obtain ⟨before, after, rfl⟩ := List.append_of_mem belongs
    rw [List.map_append, List.map_cons, List.nodup_append] at keys
    refine Or.inr ⟨before, value, after, rfl, found, ?_, (List.nodup_cons.mp keys.2.1).1⟩
    intro earlier
    exact keys.2.2 _ earlier _ List.mem_cons_self rfl
  · exact Or.inl ⟨Json.lookup_eq_none_of_not_mem named, named⟩

end Members

section Read

variable {medium : Medium}

theorem readInteger_of_bounds {value lower upper : Int} {wanted : Wanted}
    (low : lower ≤ value) (high : value < upper) :
    (Json.integer value).draft.readInteger wanted lower upper = .ok value :=
  if_pos ⟨low, high⟩

theorem read_integer (value : Int64) :
    Layout.integer.read medium (Json.integer value.toInt).draft = .ok value := by
  have low : Int64.minValue.toInt ≤ value.toInt := value.minValue_le_toInt
  have high : value.toInt < Int64.maxValue.toInt + 1 := Int.lt_add_one_of_le value.toInt_le
  rw [Layout.read, readInteger_of_bounds low high]
  exact congrArg Except.ok value.ofInt_toInt

theorem read_word16 (value : UInt16) :
    Layout.word16.read medium (Json.integer value.toNat).draft = .ok value := by
  have high : (value.toNat : Int) < UInt16.size := Int.ofNat_lt.mpr value.toNat_lt
  rw [Layout.read, readInteger_of_bounds (Int.natCast_nonneg _) high]
  exact congrArg Except.ok value.ofNat_toNat

theorem read_word32 (value : UInt32) :
    Layout.word32.read medium (Json.integer value.toNat).draft = .ok value := by
  have high : (value.toNat : Int) < UInt32.size := Int.ofNat_lt.mpr value.toNat_lt
  rw [Layout.read, readInteger_of_bounds (Int.natCast_nonneg _) high]
  exact congrArg Except.ok value.ofNat_toNat

theorem read_word64 (value : UInt64) :
    Layout.word64.read medium (Json.integer value.toNat).draft = .ok value := by
  have high : (value.toNat : Int) < UInt64.size := Int.ofNat_lt.mpr value.toNat_lt
  rw [Layout.read, readInteger_of_bounds (Int.natCast_nonneg _) high]
  exact congrArg Except.ok value.ofNat_toNat

theorem mapM_of_shows {item : Layout α} {values : List α} {items : List Json}
    (shows : List.Forall₂ item.Shows values items)
    (each : ∀ data ∈ items, ∀ value, item.Shows value data →
      item.read medium data.draft = .ok value) :
    (Json.draftItems items).mapM (item.read medium) = .ok values := by
  induction shows with
  | nil => rfl
  | cons first later ih =>
      rw [Json.draftItems, List.mapM_cons, each _ List.mem_cons_self _ first,
        ih fun data belongs => each data (List.mem_cons_of_mem _ belongs)]
      rfl

theorem Medium.enter_admits {depth : Nat} (admitted : medium.admits (depth + 1) = true) :
    ∃ inside, medium.enter = .ok inside ∧ inside.admits depth = true := by
  rcases medium.enter_cases with ⟨inside, entered, same⟩ | ⟨-, never⟩
  · exact ⟨inside, entered, by rw [← same, admitted]⟩
  · rw [never] at admitted
    contradiction

theorem read_some {layout : Layout α} {data : Json} {value : α} (notNull : data ≠ .null)
    (read : layout.read medium data.draft = .ok value) :
    (match data.draft with
      | .null => .ok none
      | _ => (layout.read medium data.draft).map some : Except LayoutError (Option α)) =
      .ok (some value) := by
  cases data with
  | null => contradiction
  | _ =>
      simp only [Json.draft] at read ⊢
      rw [read]
      rfl

mutual

/-- Data is read as the value that it shows. -/
theorem Layout.read_of_shows : {α : Type} → (layout : Layout α) → layout.isDistinct = true →
    {medium : Medium} → {value : α} → {data : Json} → data.Distinct →
    medium.admits data.depth = true → layout.Shows value data →
    layout.read medium data.draft = .ok value
  | _, .integer, _, _, value, _, _, _, shows => by
      rw [shows]
      exact read_integer value
  | _, .word16, _, _, value, _, _, _, shows => by
      rw [shows]
      exact read_word16 value
  | _, .word32, _, _, value, _, _, _, shows => by
      rw [shows]
      exact read_word32 value
  | _, .word64, _, _, value, _, _, _, shows => by
      rw [shows]
      exact read_word64 value
  | _, .boolean, _, _, _, _, _, _, shows => by
      rw [shows]
      rfl
  | _, .text, _, _, _, _, _, _, shows => by
      rw [shows]
      rfl
  | _, .path, _, _, _, _, _, _, shows => by
      rw [shows]
      rfl
  | _, .anything, _, _, _, data, _, admitted, shows => by
      rw [Layout.read, data.toJson_draft, Json.readWhole, if_pos admitted]
      exact congrArg Except.ok shows
  | _, .list item, tidy, _, values, _, distinct, admitted, shows => by
      obtain ⟨items, rfl, each⟩ := shows
      obtain ⟨inside, entered, fits⟩ := Medium.enter_admits admitted
      cases distinct with
      | list distinct =>
          have read := mapM_of_shows each fun data belongs _ shows =>
            item.read_of_shows tidy (distinct data belongs)
              (Medium.admits_of_le (Json.depthItems_le_iff.mp le_rfl data belongs) fits) shows
          simp only [Json.draft, Layout.read, entered, bind, Except.bind, read]
          rfl
  | _, .record name guarded fields pack unpack pack_unpack, tidy, _, value, _, distinct, admitted,
      shows => by
      obtain ⟨members, rfl, known, shown⟩ := shows
      obtain ⟨inside, entered, fits⟩ := Medium.enter_admits admitted
      rw [Layout.isDistinct, Bool.and_eq_true, decide_eq_true_eq] at tidy
      cases distinct with
      | object keys distinct =>
          obtain ⟨slots, read, settled⟩ := fields.readMembers_of_shows tidy.2 tidy.1
            (if guarded then some fields.names else none) keys distinct
            (fun member belongs =>
              Medium.admits_of_le (Json.depthMembers_le_iff.mp le_rfl member belongs) fits)
            (fun names same member belongs => by
              split at same
              · rename_i guard
                exact known guard member belongs
              · contradiction) shown
          rw [Fields.readMembers] at read
          simp only [Json.draft, Layout.read, entered, bind, Except.bind, read]
          simp only [passing, Closing.read, Except.mapError, settled, pack_unpack]

theorem Field.read_of_shows : {α : Type} → (field : Field α) → field.isDistinct = true →
    {medium : Medium} → {component : α} → {data : Json} → data.Distinct →
    medium.admits data.depth = true → field.Shows component (some data) →
    field.read medium data.draft = .ok component
  | _, .required _ layout, tidy, _, _, _, distinct, admitted, shows => by
      obtain ⟨data, found, shown⟩ := shows
      cases found
      exact layout.read_of_shows tidy distinct admitted shown
  | _, .defaulted _ layout _, tidy, _, _, _, distinct, admitted, shows =>
      layout.read_of_shows tidy distinct admitted shows
  | _, .optional _ layout, tidy, _, component, _, distinct, admitted, shows => by
      cases component with
      | none =>
          rcases shows with absent | null
          · contradiction
          · cases null
            rfl
      | some component =>
          obtain ⟨data, found, notNull, shown⟩ := shows
          cases found
          exact read_some notNull (layout.read_of_shows tidy distinct admitted shown)
  | _, .nullable _ layout _, tidy, _, component, _, distinct, admitted, shows => by
      cases component with
      | none =>
          rcases shows with absent | null
          · contradiction
          · cases null
            rfl
      | some component =>
          obtain ⟨data, found, notNull, shown⟩ := shows
          cases found
          exact read_some notNull (layout.read_of_shows tidy distinct admitted shown)

theorem Fields.readMembers_of_shows : {σ τ : Type} → (fields : Fields σ τ) →
    fields.isDistinct = true → fields.names.Nodup → (known : Option (List String)) →
    {medium : Medium} → {components : σ} → {members : List (String × Json)} →
    (members.map Prod.fst).Nodup → (∀ member ∈ members, member.2.Distinct) →
    (∀ member ∈ members, medium.admits member.2.depth = true) →
    (∀ names, known = some names → ∀ member ∈ members, member.1 ∈ fields.names) →
    fields.Shows components members →
    ∃ slots, fields.readMembers known medium members fields.vacant = .ok slots ∧
      fields.settle slots = .ok components
  | _, _, .nil, _, _, _, _, _, _, _, _, _, guard, _ => ⟨(), Fields.readMembers_nil guard, rfl⟩
  | _, _, .cons field others, tidy, names, known, _, (component, components), members, keys,
      distinct, admitted, guard, shows => by
      obtain ⟨shown, shownLater⟩ := shows
      rw [Fields.isDistinct, Bool.and_eq_true] at tidy
      obtain ⟨unlike, names⟩ := List.nodup_cons.mp names
      rcases lookup_cases keys field.name with
        ⟨missing, unnamed⟩ | ⟨before, value, after, rfl, found, unnamedBefore, unnamedAfter⟩
      · obtain ⟨slots, read, settled⟩ :=
          others.readMembers_of_shows tidy.2 names known keys distinct
          admitted (Fields.known_others guard (List.Subset.refl _) unnamed) shownLater
        rw [missing] at shown
        refine ⟨(none, slots), ?_, ?_⟩
        · rw [Fields.vacant, Fields.readMembers_others unnamed, read]
          rfl
        · rw [Fields.settle, Option.none_or, Field.missing?_of_shows shown]
          simp only [settled, bind, Except.bind]
      · -- What is left without the member that the field names shows the other components.
        have kept : ∀ name ∈ others.names,
            (before ++ after).lookup name =
              (before ++ (field.name, value) :: after).lookup name := by
          intro name belongs
          have differ : name ≠ field.name := fun same => unlike (same ▸ belongs)
          rw [List.lookup_append, List.lookup_append, Json.lookup_other differ]
        have sublist : (before ++ after).Sublist (before ++ (field.name, value) :: after) :=
          (List.sublist_cons_self _ _).append_left before
        have unnamed : field.name ∉ (before ++ after).map Prod.fst := by
          rw [List.map_append, List.mem_append]
          exact not_or.mpr ⟨unnamedBefore, unnamedAfter⟩
        obtain ⟨slots, read, settled⟩ := others.readMembers_of_shows tidy.2 names known
          (keys.sublist (sublist.map _))
          (fun member belongs => distinct member (sublist.subset belongs))
          (fun member belongs => admitted member (sublist.subset belongs))
          (Fields.known_others guard sublist.subset unnamed) (others.shows_congr shownLater kept)
        have present : (field.name, value) ∈ before ++ (field.name, value) :: after :=
          List.mem_append_right _ List.mem_cons_self
        rw [found] at shown
        have here := field.read_of_shows tidy.1 (distinct _ present) (admitted _ present) shown
        refine ⟨(some component, slots),
          Fields.readMembers_named unnamedBefore unnamedAfter here read, ?_⟩
        rw [Fields.settle, Option.some_or]
        simp only [settled, bind, Except.bind]

end

end Read

end Debuggee
