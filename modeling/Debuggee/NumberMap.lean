/-!
Maps from numbers. A map holds its entries in ascending order of their keys, so the entries next
to a number can be found whether or not the number is a key.
-/

namespace Debuggee

structure NumberMap (α : Type) where
  entries : List (Nat × α)
  ascending : entries.Pairwise (fun earlier later => earlier.1 < later.1)
  deriving DecidableEq, Repr

namespace NumberMap

variable {α β : Type}

def empty : NumberMap α := ⟨[], .nil⟩

def put (key : Nat) (value : α) : List (Nat × α) → List (Nat × α)
  | [] => [(key, value)]
  | (other, kept) :: entries =>
    if key < other then (key, value) :: (other, kept) :: entries
    else if key = other then (key, value) :: entries
    else (other, kept) :: put key value entries

theorem mem_put {key : Nat} {value : α} {entry : Nat × α} {entries : List (Nat × α)}
    (member : entry ∈ put key value entries) : entry = (key, value) ∨ entry ∈ entries := by
  induction entries with
  | nil => simpa [put] using member
  | cons first entries ih =>
      simp only [put] at member
      split at member
      · simpa using member
      · split at member
        · simp only [List.mem_cons] at member ⊢
          exact member.imp_right Or.inr
        · simp only [List.mem_cons] at member ⊢
          rcases member with same | later
          · exact Or.inr (Or.inl same)
          · exact (ih later).imp_right Or.inr

theorem ascending_put (key : Nat) (value : α) {entries : List (Nat × α)}
    (ascending : entries.Pairwise (fun earlier later => earlier.1 < later.1)) :
    (put key value entries).Pairwise (fun earlier later => earlier.1 < later.1) := by
  induction entries with
  | nil => simp [put]
  | cons first entries ih =>
      have parts := List.pairwise_cons.mp ascending
      simp only [put]
      split
      · rename_i below
        refine List.pairwise_cons.mpr ⟨?_, ascending⟩
        intro entry member
        rcases List.mem_cons.mp member with same | later
        · simpa [same] using below
        · exact Nat.lt_trans below (parts.1 entry later)
      · rename_i notBelow
        split
        · rename_i same
          subst same
          exact List.pairwise_cons.mpr parts
        · rename_i different
          refine List.pairwise_cons.mpr ⟨?_, ih parts.2⟩
          intro entry member
          rcases mem_put member with same | later
          · simp only [same]
            omega
          · exact parts.1 entry later

theorem lookup_first {κ : Type} [DecidableEq κ] (first : κ × α) (entries : List (κ × α))
    (query : κ) :
    (first :: entries).lookup query =
      if query = first.1 then some first.2 else entries.lookup query := by
  obtain ⟨key, value⟩ := first
  by_cases same : query = key
  · simp [same]
  · simp [List.lookup_cons, beq_false_of_ne same, same]

theorem lookup_put (key : Nat) (value : α) (entries : List (Nat × α)) (query : Nat) :
    (put key value entries).lookup query =
      if query = key then some value else entries.lookup query := by
  induction entries with
  | nil => exact lookup_first (key, value) [] query
  | cons first entries ih =>
      simp only [put]
      split
      · exact lookup_first (key, value) (first :: entries) query
      · split
        · rename_i same
          rw [lookup_first, lookup_first, ← same]
          split <;> rfl
        · rename_i different
          rw [lookup_first, lookup_first, ih]
          split
          · rename_i here
            rw [if_neg (fun asked => different (asked.symm.trans here))]
          · rfl

def set (map : NumberMap α) (key : Nat) (value : α) : NumberMap α where
  entries := put key value map.entries
  ascending := ascending_put key value map.ascending

def get? (map : NumberMap α) (key : Nat) : Option α :=
  map.entries.lookup key

def atOrBelow? (map : NumberMap α) (number : Nat) : Option (Nat × α) :=
  (map.entries.filter (·.1 ≤ number)).getLast?

def above? (map : NumberMap α) (number : Nat) : Option (Nat × α) :=
  map.entries.find? (number < ·.1)

def values (map : NumberMap α) : List α :=
  map.entries.map (·.2)

def mapValues (change : α → β) (map : NumberMap α) : NumberMap β where
  entries := map.entries.map fun entry => (entry.1, change entry.2)
  ascending := map.ascending.map _ fun _ _ below => below

def filterValues (keep : α → Bool) (map : NumberMap α) : NumberMap α where
  entries := map.entries.filter fun entry => keep entry.2
  ascending := map.ascending.filter _

theorem entry_unique {entries : List (Nat × α)}
    (ascending : entries.Pairwise (fun earlier later => earlier.1 < later.1))
    {first second : Nat × α} (firstIn : first ∈ entries) (secondIn : second ∈ entries)
    (same : first.1 = second.1) : first = second := by
  induction entries with
  | nil => simp at firstIn
  | cons entry entries ih =>
      have parts := List.pairwise_cons.mp ascending
      rcases List.mem_cons.mp firstIn with firstHere | firstLater
      · rcases List.mem_cons.mp secondIn with secondHere | secondLater
        · rw [firstHere, secondHere]
        · have below := parts.1 second secondLater
          rw [← firstHere] at below
          omega
      · rcases List.mem_cons.mp secondIn with secondHere | secondLater
        · have below := parts.1 first firstLater
          rw [← secondHere] at below
          omega
        · exact ih parts.2 firstLater secondLater

theorem mem_of_lookup {entries : List (Nat × α)} {key : Nat} {value : α}
    (found : entries.lookup key = some value) : (key, value) ∈ entries := by
  induction entries with
  | nil => simp at found
  | cons entry entries ih =>
      rw [lookup_first] at found
      split at found
      · rename_i same
        simp only [Option.some.injEq] at found
        exact List.mem_cons.mpr (Or.inl (Prod.ext same found.symm))
      · exact List.mem_cons.mpr (Or.inr (ih found))

theorem lookup_of_mem {entries : List (Nat × α)} {entry : Nat × α} (member : entry ∈ entries) :
    ∃ value, entries.lookup entry.1 = some value := by
  induction entries with
  | nil => simp at member
  | cons first entries ih =>
      rw [lookup_first]
      split
      · exact ⟨_, rfl⟩
      · rename_i different
        rcases List.mem_cons.mp member with same | later
        · exact absurd (congrArg Prod.fst same) different
        · exact ih later

theorem get?_eq_some_iff {map : NumberMap α} {key : Nat} {value : α} :
    map.get? key = some value ↔ (key, value) ∈ map.entries := by
  constructor
  · exact mem_of_lookup
  · intro member
    obtain ⟨found, lookup⟩ := lookup_of_mem member
    have same := entry_unique map.ascending (mem_of_lookup lookup) member rfl
    rw [Prod.mk.injEq] at same
    rw [get?, lookup, same.2]

theorem get?_set (map : NumberMap α) (key : Nat) (value : α) (query : Nat) :
    (map.set key value).get? query = if query = key then some value else map.get? query :=
  lookup_put key value map.entries query

theorem get?_mapValues (change : α → β) (map : NumberMap α) (key : Nat) :
    (map.mapValues change).get? key = (map.get? key).map change := by
  have lookup : ∀ entries : List (Nat × α),
      (entries.map fun entry => (entry.1, change entry.2)).lookup key =
        (entries.lookup key).map change := by
    intro entries
    induction entries with
    | nil => rfl
    | cons entry entries ih =>
        simp only [List.map_cons, lookup_first, ih]
        split <;> rfl
  exact lookup map.entries

theorem values_mapValues (change : α → β) (map : NumberMap α) :
    (map.mapValues change).values = map.values.map change := by
  simp [values, mapValues, Function.comp_def]

theorem get?_filterValues_eq_some_iff {keep : α → Bool} {map : NumberMap α} {key : Nat}
    {value : α} :
    (map.filterValues keep).get? key = some value ↔ map.get? key = some value ∧ keep value := by
  simp only [get?_eq_some_iff, filterValues, List.mem_filter]

theorem mem_values_iff {map : NumberMap α} {value : α} :
    value ∈ map.values ↔ ∃ key, map.get? key = some value := by
  simp only [values, List.mem_map, get?_eq_some_iff]
  constructor
  · rintro ⟨entry, member, same⟩
    exact ⟨entry.1, by simpa [← same] using member⟩
  · rintro ⟨key, member⟩
    exact ⟨(key, value), member, rfl⟩

theorem atOrBelow?_some {map : NumberMap α} {number : Nat} {entry : Nat × α}
    (found : map.atOrBelow? number = some entry) :
    map.get? entry.1 = some entry.2 ∧ entry.1 ≤ number ∧
      ∀ key, entry.1 < key → key ≤ number → map.get? key = none := by
  obtain ⟨earlier, split⟩ := List.getLast?_eq_some_iff.mp found
  have below : ∀ other, other ∈ earlier ++ [entry] ↔ other ∈ map.entries ∧ other.1 ≤ number := by
    intro other
    rw [← split, List.mem_filter, decide_eq_true_eq]
  have here := (below entry).mp (by simp)
  refine ⟨get?_eq_some_iff.mpr here.1, here.2, ?_⟩
  intro key above most
  cases lookup : map.get? key with
  | none => rfl
  | some value =>
      have ordered := map.ascending.filter (fun entry => entry.1 ≤ number)
      rw [split, List.pairwise_append] at ordered
      have member := (below (key, value)).mpr ⟨get?_eq_some_iff.mp lookup, most⟩
      rcases List.mem_append.mp member with before | last
      · have contrary := ordered.2.2 (key, value) before entry (by simp)
        simp only at contrary
        omega
      · rw [List.mem_singleton] at last
        simp [← last] at above

theorem atOrBelow?_none {map : NumberMap α} {number : Nat}
    (missing : map.atOrBelow? number = none) {key : Nat} (most : key ≤ number) :
    map.get? key = none := by
  cases lookup : map.get? key with
  | none => rfl
  | some value =>
      rw [atOrBelow?, List.getLast?_eq_none_iff, List.filter_eq_nil_iff] at missing
      have contrary := missing (key, value) (get?_eq_some_iff.mp lookup)
      simp [most] at contrary

theorem above?_some {map : NumberMap α} {number : Nat} {entry : Nat × α}
    (found : map.above? number = some entry) :
    map.get? entry.1 = some entry.2 ∧ number < entry.1 ∧
      ∀ key, number < key → key < entry.1 → map.get? key = none := by
  obtain ⟨above, earlier, later, whole, skipped⟩ := List.find?_eq_some_iff_append.mp found
  rw [decide_eq_true_eq] at above
  refine ⟨get?_eq_some_iff.mpr (by simp [whole]), above, ?_⟩
  intro key between before
  cases lookup : map.get? key with
  | none => rfl
  | some value =>
      have member := get?_eq_some_iff.mp lookup
      have ordered := map.ascending
      rw [whole, List.pairwise_append, List.pairwise_cons] at ordered
      rw [whole] at member
      rcases List.mem_append.mp member with first | rest
      · have contrary := skipped (key, value) first
        simp [between] at contrary
      · rcases List.mem_cons.mp rest with same | last
        · simp [← same] at before
        · have contrary := ordered.2.1.1 (key, value) last
          simp only at contrary
          omega

theorem above?_none {map : NumberMap α} {number : Nat} (missing : map.above? number = none)
    {key : Nat} (above : number < key) : map.get? key = none := by
  cases lookup : map.get? key with
  | none => rfl
  | some value =>
      have contrary := List.find?_eq_none.mp missing (key, value) (get?_eq_some_iff.mp lookup)
      simp [above] at contrary

end NumberMap

end Debuggee
