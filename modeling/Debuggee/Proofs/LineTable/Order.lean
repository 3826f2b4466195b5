import Debuggee.Proofs.LineTable.Range

/-!
The order in which a table is told of lines. A table keeps what every line was last told as, and it
reaches as far as these lines; nothing else of the order is left in it.
-/

namespace Debuggee

theorem NumberMap.eq_of_get? {α : Type} {first second : NumberMap α}
    (same : ∀ key, first.get? key = second.get? key) : first = second := by
  have members : ∀ entry, entry ∈ first.entries ↔ entry ∈ second.entries := by
    rintro ⟨key, value⟩
    rw [← get?_eq_some_iff, ← get?_eq_some_iff, same]
  have distinct : ∀ map : NumberMap α, map.entries.Nodup := by
    intro map
    apply map.ascending.imp
    rintro earlier later below rfl
    omega
  have perm := (List.perm_ext_iff_of_nodup (distinct first) (distinct second)).mpr members
  have entries : first.entries = second.entries := by
    refine perm.eq_of_pairwise ?_ first.ascending second.ascending
    intro entry other _ _ below above
    omega
  cases first
  cases second
  simpa using entries

namespace LineTable

def lastKind? (lines : List (Int64 × LineKind)) (line : Int64) : Option LineKind :=
  (lines.reverse.find? fun told => told.1 = line).map (·.2)

theorem lastKind?_concat (lines : List (Int64 × LineKind)) (told : Int64 × LineKind)
    (line : Int64) :
    lastKind? (lines ++ [told]) line =
      if told.1 = line then some told.2 else lastKind? lines line := by
  rw [lastKind?, List.reverse_concat, List.find?_cons]
  by_cases here : told.1 = line
  · simp [here]
  · simp [here, lastKind?]

theorem lineIndex_eq_iff {line other : Int64} (positive : lineIndex line ≠ 0) :
    lineIndex line = lineIndex other ↔ other = line := by
  constructor
  · intro same
    simp only [lineIndex] at positive same
    exact Int64.toInt_inj.mp (by omega)
  · intro same
    rw [same]

/-- A table holds for every line above zero what it was last told as. -/
theorem get?_ofLines (lines : List (Int64 × LineKind)) {line : Int64}
    (positive : lineIndex line ≠ 0) :
    (ofLines lines).entries.get? (lineIndex line) = lastKind? lines line := by
  induction lines using List.reverseRecOn with
  | nil =>
      have first := NumberMap.get?_set .empty 0 LineKind.invalid (lineIndex line)
      rw [if_neg positive] at first
      exact first
  | append_singleton lines told ih =>
      rw [ofLines_concat, lastKind?_concat]
      by_cases zero : lineIndex told.1 = 0
      · have other : told.1 ≠ line := by
          intro same
          rw [same] at zero
          exact positive zero
        rw [register_of_zero _ _ zero, if_neg other, ih]
      · rw [get?_register _ _ zero, ih]
        simp only [lineIndex_eq_iff positive]

/-- A table reaches no further than the last line that it was told of. -/
def Reached (table : LineTable) : Prop :=
  ∃ line kind, table.entries.get? line = some kind ∧ table.length = min (line + 1) maxLine

theorem Reached.register {table : LineTable} (reached : table.Reached) (line : Int64)
    (kind : LineKind) : (table.register line kind).Reached := by
  by_cases zero : lineIndex line = 0
  · rw [register_of_zero table kind zero]
    exact reached
  · by_cases beyond : table.length ≤ lineIndex line
    · refine ⟨lineIndex line, kind, ?_, ?_⟩
      · rw [get?_register table kind zero, if_pos rfl]
      · rw [length_register table kind zero, if_pos beyond]
    · obtain ⟨last, told, found, length⟩ := reached
      have still : (table.register line kind).length = min (last + 1) maxLine := by
        rw [length_register table kind zero, if_neg beyond, length]
      by_cases here : last = lineIndex line
      · exact ⟨last, kind, by rw [get?_register table kind zero, if_pos here], still⟩
      · exact ⟨last, told, by rw [get?_register table kind zero, if_neg here, found], still⟩

theorem reached_ofLines (lines : List (Int64 × LineKind)) : (ofLines lines).Reached := by
  induction lines using List.reverseRecOn with
  | nil => exact ⟨0, .invalid, rfl, by decide⟩
  | append_singleton lines told ih =>
      rw [ofLines_concat]
      exact ih.register told.1 told.2

theorem Reached.length_le {table other : LineTable} (reached : table.Reached)
    (valid : other.Valid) (same : table.entries = other.entries) :
    table.length ≤ other.length := by
  obtain ⟨last, kind, told, length⟩ := reached
  rw [same] at told
  rcases valid.covered last kind told with below | ⟨_, whole⟩
  · omega
  · omega

def TellAlike (first second : List (Int64 × LineKind)) : Prop :=
  ∀ line : Int64, 0 < line.toInt → lastKind? first line = lastKind? second line

variable {first second : List (Int64 × LineKind)}

theorem TellAlike.entries_eq (alike : TellAlike first second) :
    (ofLines first).entries = (ofLines second).entries := by
  apply NumberMap.eq_of_get?
  intro index
  by_cases zero : index = 0
  · rw [zero, (valid_ofLines first).zero, (valid_ofLines second).zero]
  · by_cases most : index ≤ maxLine
    · rw [maxLine_eq] at most
      have value : (Int64.ofNat index).toInt = index := Int64.toInt_ofNat_of_lt (by omega)
      have same : lineIndex (Int64.ofNat index) = index := by
        rw [lineIndex, value, Int.toNat_natCast]
      rw [← same, get?_ofLines first (same.symm ▸ zero), get?_ofLines second (same.symm ▸ zero)]
      exact alike _ (by omega)
    · have none_of : ∀ lines, (ofLines lines).entries.get? index = none := by
        intro lines
        cases found : (ofLines lines).entries.get? index with
        | none => rfl
        | some kind =>
            have limited := (valid_ofLines lines).limited
            have covered := (valid_ofLines lines).covered index kind found
            omega
      rw [none_of, none_of]

theorem TellAlike.ofLines_eq (alike : TellAlike first second) :
    ofLines first = ofLines second := by
  have entries := alike.entries_eq
  have length : (ofLines first).length = (ofLines second).length :=
    Nat.le_antisymm ((reached_ofLines first).length_le (valid_ofLines second) entries)
      ((reached_ofLines second).length_le (valid_ofLines first) entries.symm)
  cases whole : ofLines first
  cases other : ofLines second
  rw [whole, other] at entries length
  exact congrArg₂ LineTable.mk entries length

end LineTable

end Debuggee
