import Debuggee.Json.Value
import Mathlib

/-!
Sorting the members of objects, at every depth. Sorted keys ascend strictly, sorting again changes
nothing, and where no object names a member twice every member is kept and can be looked up.
-/

namespace Debuggee.Json

/-- A property of all data holds if lists and objects have it whose items and members have it. -/
theorem nested {motive : Json → Prop} (null : motive .null)
    (boolean : ∀ value, motive (.boolean value)) (integer : ∀ value, motive (.integer value))
    (double : ∀ value, motive (.double value)) (text : ∀ value, motive (.text value))
    (list : ∀ items, (∀ item ∈ items, motive item) → motive (.list items))
    (object : ∀ members, (∀ member ∈ members, motive member.2) → motive (.object members))
    (data : Json) : motive data :=
  Json.rec (motive_1 := motive) (motive_2 := fun items => ∀ item ∈ items, motive item)
    (motive_3 := fun members => ∀ member ∈ members, motive member.2)
    (motive_4 := fun member => motive member.2)
    null boolean integer double text list object
    (by simp) (fun _ _ first others => List.forall_mem_cons.mpr ⟨first, others⟩)
    (by simp) (fun _ _ first others => List.forall_mem_cons.mpr ⟨first, others⟩)
    (fun _ _ value => value) data

inductive Distinct : Json → Prop where
  | null : Distinct .null
  | boolean (value : Bool) : Distinct (.boolean value)
  | integer (value : Int) : Distinct (.integer value)
  | double (value : Binary64) : Distinct (.double value)
  | text (value : String) : Distinct (.text value)
  | list {items : List Json} (each : ∀ item ∈ items, Distinct item) : Distinct (.list items)
  | object {members : List (String × Json)} (keys : (members.map Prod.fst).Nodup)
      (each : ∀ member ∈ members, Distinct member.2) : Distinct (.object members)

mutual

def depth : Json → Nat
  | .null | .boolean _ | .integer _ | .double _ | .text _ => 0
  | .list items => depthItems items + 1
  | .object members => depthMembers members + 1

def depthItems : List Json → Nat
  | [] => 0
  | item :: items => max item.depth (depthItems items)

def depthMembers : List (String × Json) → Nat
  | [] => 0
  | (_, value) :: members => max value.depth (depthMembers members)

end

theorem depthItems_le_iff {items : List Json} {levels : Nat} :
    depthItems items ≤ levels ↔ ∀ item ∈ items, item.depth ≤ levels := by
  induction items with
  | nil => simp [depthItems]
  | cons item items ih => rw [depthItems, Nat.max_le, ih, List.forall_mem_cons]

theorem depthMembers_le_iff {members : List (String × Json)} {levels : Nat} :
    depthMembers members ≤ levels ↔ ∀ member ∈ members, member.2.depth ≤ levels := by
  induction members with
  | nil => simp [depthMembers]
  | cons member members ih => rw [depthMembers, Nat.max_le, ih, List.forall_mem_cons]

theorem sortedItems_eq_map (items : List Json) : sortedItems items = items.map sorted := by
  induction items with
  | nil => rfl
  | cons item items ih => rw [sortedItems, ih, List.map_cons]

def Ascending (members : List (String × Json)) : Prop :=
  members.Pairwise fun first second => first.1 < second.1

variable {key : String} {value : Json} {member : String × Json}
variable {members done : List (String × Json)}

section Lookup

theorem mem_of_lookup (found : members.lookup key = some value) : (key, value) ∈ members := by
  obtain ⟨before, after, rfl, -⟩ := List.lookup_eq_some_iff.mp found
  simp

theorem lookup_other {other : String} (differ : other ≠ key) :
    ((key, value) :: members).lookup other = members.lookup other := by
  rw [List.lookup_cons, beq_eq_false_iff_ne.mpr differ]

theorem lookup_eq_none_of_not_mem (absent : key ∉ members.map Prod.fst) :
    members.lookup key = none := by
  rw [List.lookup_eq_none_iff]
  intro other belongs
  rw [bne_iff_ne]
  intro same
  exact absent (List.mem_map.mpr ⟨other, belongs, same.symm⟩)

theorem lookup_of_mem (keys : (members.map Prod.fst).Nodup) (belongs : member ∈ members) :
    members.lookup member.1 = some member.2 := by
  induction members with
  | nil => simp at belongs
  | cons other members ih =>
      rw [List.map_cons, List.nodup_cons] at keys
      rcases List.mem_cons.mp belongs with rfl | later
      · exact List.lookup_cons_self
      · have named : member.1 ∈ members.map Prod.fst := List.mem_map_of_mem later
        have differ : member.1 ≠ other.1 := by
          intro same
          exact keys.1 (same ▸ named)
        rw [lookup_other differ]
        exact ih keys.2 later

end Lookup

section Members

theorem mem_setMember (belongs : member ∈ setMember key value members) :
    member = (key, value) ∨ member ∈ members := by
  induction members with
  | nil => simpa [setMember] using belongs
  | cons other members ih =>
      rw [setMember] at belongs
      split at belongs
      · simpa using belongs
      · split at belongs
        · rcases List.mem_cons.mp belongs with same | later
          · exact Or.inl same
          · exact Or.inr (List.mem_cons_of_mem _ later)
        · rcases List.mem_cons.mp belongs with same | later
          · exact Or.inr (same ▸ List.mem_cons_self)
          · exact (ih later).imp id (List.mem_cons_of_mem _)

theorem lookup_setMember_self :
    (setMember key value members).lookup key = some value := by
  induction members with
  | nil => exact List.lookup_cons_self
  | cons first members ih =>
      rw [setMember]
      split
      · exact List.lookup_cons_self
      · split
        · exact List.lookup_cons_self
        · rename_i differ
          rw [lookup_other differ, ih]

theorem lookup_setMember_other {other : String} (differ : other ≠ key) :
    (setMember key value members).lookup other = members.lookup other := by
  induction members with
  | nil => exact lookup_other differ
  | cons first members ih =>
      rw [setMember]
      split
      · exact lookup_other differ
      · split
        · rename_i same
          rw [lookup_other differ, ← lookup_other (same ▸ differ)]
        · by_cases named : other = first.1
          · rw [named, List.lookup_cons_self]
            exact List.lookup_cons_self.symm
          · rw [lookup_other named, ih]
            exact (lookup_other named).symm

theorem Ascending.setMember (ascending : Ascending members) :
    Ascending (setMember key value members) := by
  induction members with
  | nil => simp [Json.setMember, Ascending]
  | cons first members ih =>
      obtain ⟨least, later⟩ := List.pairwise_cons.mp ascending
      rw [Json.setMember]
      split
      · rename_i less
        refine List.pairwise_cons.mpr ⟨?_, ascending⟩
        intro other belongs
        rcases List.mem_cons.mp belongs with rfl | beyond
        · exact less
        · exact less.trans (least other beyond)
      · split
        · rename_i equal
          refine List.pairwise_cons.mpr ⟨?_, later⟩
          intro other belongs
          rw [equal]
          exact least other belongs
        · rename_i notLess differ
          refine List.pairwise_cons.mpr ⟨?_, ih later⟩
          intro other belongs
          rcases mem_setMember belongs with rfl | beyond
          · exact lt_of_le_of_ne (not_lt.mp notLess) (Ne.symm differ)
          · exact least other beyond

theorem setMember_beyond (beyond : ∀ other ∈ members, other.1 < key) :
    setMember key value members = members ++ [(key, value)] := by
  induction members with
  | nil => rfl
  | cons first members ih =>
      have less : first.1 < key := beyond first (by simp)
      rw [setMember, if_neg (lt_asymm less), if_neg (ne_of_gt less),
        ih fun other belongs => beyond other (List.mem_cons_of_mem _ belongs), List.cons_append]

theorem mem_sortedMembers (belongs : member ∈ sortedMembers members done) :
    (∃ raw ∈ members, member = (raw.1, raw.2.sorted)) ∨ member ∈ done := by
  induction members generalizing done with
  | nil => exact Or.inr belongs
  | cons first members ih =>
      rw [sortedMembers] at belongs
      rcases ih belongs with ⟨raw, later, same⟩ | earlier
      · exact Or.inl ⟨raw, List.mem_cons_of_mem _ later, same⟩
      · rcases mem_setMember earlier with same | kept
        · exact Or.inl ⟨first, by simp, same⟩
        · exact Or.inr kept

theorem Ascending.sortedMembers (ascending : Ascending done) :
    Ascending (sortedMembers members done) := by
  induction members generalizing done with
  | nil => exact ascending
  | cons first members ih => exact ih ascending.setMember

theorem sortedMembers_of_ascending (ascending : Ascending (done ++ members))
    (settled : ∀ member ∈ members, member.2.sorted = member.2) :
    sortedMembers members done = done ++ members := by
  induction members generalizing done with
  | nil => rw [sortedMembers, List.append_nil]
  | cons first members ih =>
      have beyond : ∀ other ∈ done, other.1 < first.1 := by
        intro other belongs
        exact (List.pairwise_append.mp ascending).2.2 other belongs first (by simp)
      have regrouped : done ++ first :: members = done ++ [(first.1, first.2)] ++ members := by
        simp
      rw [sortedMembers, settled first (by simp), setMember_beyond beyond, ih, ← regrouped]
      · rwa [← regrouped]
      · exact fun member belongs => settled member (List.mem_cons_of_mem _ belongs)

theorem lookup_sortedMembers (keys : (members.map Prod.fst).Nodup) (other : String) :
    (sortedMembers members done).lookup other =
      ((members.lookup other).map sorted).or (done.lookup other) := by
  induction members generalizing done with
  | nil => simp [sortedMembers]
  | cons first members ih =>
      rw [List.map_cons, List.nodup_cons] at keys
      obtain ⟨key, value⟩ := first
      rw [sortedMembers, ih keys.2]
      by_cases same : other = key
      · rw [same, lookup_setMember_self, lookup_eq_none_of_not_mem keys.1, List.lookup_cons_self]
        rfl
      · rw [lookup_setMember_other same, lookup_other same]

theorem mem_sortedMembers_iff (keys : (members.map Prod.fst).Nodup) :
    member ∈ sortedMembers members [] ↔ ∃ raw ∈ members, member = (raw.1, raw.2.sorted) := by
  constructor
  · intro belongs
    exact (mem_sortedMembers belongs).resolve_right (by simp)
  · rintro ⟨raw, belongs, rfl⟩
    apply mem_of_lookup
    rw [lookup_sortedMembers keys, lookup_of_mem keys belongs]
    rfl

theorem forall_key_sortedMembers_iff {Holds : String → Prop} (keys : (members.map Prod.fst).Nodup) :
    (∀ member ∈ sortedMembers members [], Holds member.1) ↔ ∀ member ∈ members, Holds member.1 := by
  constructor
  · intro holds raw belongs
    have kept : (raw.1, raw.2.sorted) ∈ sortedMembers members [] :=
      (mem_sortedMembers_iff keys).mpr ⟨raw, belongs, rfl⟩
    exact holds (raw.1, raw.2.sorted) kept
  · intro holds member belongs
    obtain ⟨raw, present, rfl⟩ := (mem_sortedMembers_iff keys).mp belongs
    exact holds raw present

end Members

theorem ascending_sortedMembers (members : List (String × Json)) :
    Ascending (sortedMembers members []) :=
  Ascending.sortedMembers List.Pairwise.nil

theorem Ascending.keys (ascending : Ascending members) : (members.map Prod.fst).Nodup := by
  rw [List.Nodup, List.pairwise_map]
  exact ascending.imp fun less => ne_of_lt less

theorem sorted_sorted (data : Json) : data.sorted.sorted = data.sorted := by
  induction data using nested with
  | null | boolean | integer | double | text => rfl
  | list items ih =>
      have each : (items.map sorted).map sorted = items.map sorted := by
        rw [List.map_map]
        exact List.map_congr_left ih
      rw [sorted, sorted, sortedItems_eq_map, sortedItems_eq_map, each]
  | object members ih =>
      have settled : ∀ member ∈ sortedMembers members [], member.2.sorted = member.2 := by
        intro member belongs
        obtain ⟨raw, present, rfl⟩ := (mem_sortedMembers belongs).resolve_right (by simp)
        exact ih raw present
      have ascending : Ascending ([] ++ sortedMembers members []) := ascending_sortedMembers members
      rw [sorted, sorted, sortedMembers_of_ascending ascending settled, List.nil_append]

theorem distinct_sorted (data : Json) : data.sorted.Distinct := by
  induction data using nested with
  | null => exact .null
  | boolean value => exact .boolean value
  | integer value => exact .integer value
  | double value => exact .double value
  | text value => exact .text value
  | list items ih =>
      rw [sorted, sortedItems_eq_map]
      exact .list (List.forall_mem_map.mpr ih)
  | object members ih =>
      refine .object (ascending_sortedMembers members).keys ?_
      intro member belongs
      obtain ⟨raw, present, rfl⟩ := (mem_sortedMembers belongs).resolve_right (by simp)
      exact ih raw present

/-- Nothing is lost, so nothing is nested less deep. -/
theorem Distinct.depth_sorted {data : Json} (distinct : data.Distinct) :
    data.sorted.depth = data.depth := by
  induction distinct with
  | null | boolean | integer | double | text => rfl
  | list each ih =>
      rw [sorted, depth, depth, sortedItems_eq_map]
      apply congrArg Nat.succ
      refine eq_of_forall_ge_iff fun levels => ?_
      rw [depthItems_le_iff, depthItems_le_iff, List.forall_mem_map]
      exact forall₂_congr fun item belongs => by rw [ih item belongs]
  | object keys each ih =>
      rw [sorted, depth, depth]
      apply congrArg Nat.succ
      refine eq_of_forall_ge_iff fun levels => ?_
      rw [depthMembers_le_iff, depthMembers_le_iff]
      constructor
      · intro bound raw belongs
        have kept := bound _ ((mem_sortedMembers_iff keys).mpr ⟨raw, belongs, rfl⟩)
        rwa [ih raw belongs] at kept
      · intro bound member belongs
        obtain ⟨raw, present, rfl⟩ := (mem_sortedMembers_iff keys).mp belongs
        rw [ih raw present]
        exact bound raw present

end Debuggee.Json
