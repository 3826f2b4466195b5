import Debuggee.LineTable
import Mathlib

/-!
The ranges of a line table. The lines told of cut the lines of a table into ranges, and a requested
line is resolved to the one range that holds it.
-/

namespace Debuggee.LineTable

def ofLines (lines : List (Int64 × LineKind)) : LineTable :=
  lines.foldl (fun table told => table.register told.1 told.2) {}

theorem ofLines_concat (lines : List (Int64 × LineKind)) (told : Int64 × LineKind) :
    ofLines (lines ++ [told]) = (ofLines lines).register told.1 told.2 := by
  simp [ofLines, List.foldl_append]

theorem maxLine_eq : maxLine = 2 ^ 63 - 1 := by decide

theorem lineIndex_le (line : Int64) : lineIndex line ≤ maxLine := by
  have bound := Int64.toInt_lt line
  simp only [lineIndex, maxLine_eq]
  omega

theorem lineIndex_eq_zero_iff {line : Int64} : lineIndex line = 0 ↔ line.toInt ≤ 0 :=
  Int.toNat_eq_zero

theorem register_of_zero (table : LineTable) {line : Int64} (kind : LineKind)
    (zero : lineIndex line = 0) : table.register line kind = table := by
  simp [register, zero]

theorem get?_register (table : LineTable) {line : Int64} (kind : LineKind)
    (positive : lineIndex line ≠ 0) (query : Nat) :
    (table.register line kind).entries.get? query =
      if query = lineIndex line then some kind else table.entries.get? query := by
  simp [register, positive, NumberMap.get?_set]

theorem length_register (table : LineTable) {line : Int64} (kind : LineKind)
    (positive : lineIndex line ≠ 0) :
    (table.register line kind).length =
      if table.length ≤ lineIndex line then min (lineIndex line + 1) maxLine else table.length := by
  simp [register, positive]

/-- What holds of every table. Only the greatest line may lie beyond the end. -/
structure Valid (table : LineTable) : Prop where
  zero : table.entries.get? 0 = some .invalid
  nonempty : 0 < table.length
  limited : table.length ≤ maxLine
  covered : ∀ line kind, table.entries.get? line = some kind →
    line < table.length ∨ line = maxLine ∧ table.length = maxLine

theorem valid_default : Valid {} := by
  constructor
  · rfl
  · decide
  · decide
  · intro line kind found
    have first : ({} : LineTable).entries.get? line =
        if line = 0 then some LineKind.invalid else none :=
      NumberMap.get?_set .empty 0 LineKind.invalid line
    rw [first] at found
    split at found
    · rename_i here
      exact Or.inl (here ▸ Nat.zero_lt_one)
    · contradiction

theorem Valid.register {table : LineTable} (valid : table.Valid) (line : Int64)
    (kind : LineKind) : (table.register line kind).Valid := by
  by_cases zero : lineIndex line = 0
  · rw [register_of_zero table kind zero]
    exact valid
  · have bound := lineIndex_le line
    have nonempty := valid.nonempty
    have limited := valid.limited
    have length := length_register table kind zero
    constructor
    · rw [get?_register table kind zero, if_neg (Ne.symm zero)]
      exact valid.zero
    · rw [length]
      split <;> simp only [maxLine_eq] at * <;> omega
    · rw [length]
      split <;> omega
    · intro other found told
      rw [get?_register table kind zero] at told
      rw [length]
      split at told
      · split <;> omega
      · rcases valid.covered other found told with below | last
        · split <;> omega
        · split <;> omega

theorem valid_ofLines (lines : List (Int64 × LineKind)) : (ofLines lines).Valid := by
  induction lines using List.reverseRecOn with
  | nil => exact valid_default
  | append_singleton lines told ih =>
      rw [ofLines_concat]
      exact ih.register told.1 told.2

/-- Lines between one that is told of as `kind` and the next one, or the end. -/
structure Range (table : LineTable) (start stop : Nat) (kind : LineKind) : Prop where
  told : table.entries.get? start = some kind
  nonempty : start < stop
  within : stop ≤ table.length
  untold : ∀ line, start < line → line < stop → table.entries.get? line = none
  ended : stop = table.length ∨ ∃ next, table.entries.get? stop = some next

theorem Range.start_le {table : LineTable} {start stop other otherStop line : Nat}
    {kind otherKind : LineKind} (range : table.Range start stop kind)
    (otherRange : table.Range other otherStop otherKind) (below : line < stop)
    (least : other ≤ line) : other ≤ start := by
  by_cases between : start < other
  · have missing := range.untold other between (by omega)
    rw [otherRange.told] at missing
    contradiction
  · omega

theorem Range.stop_le {table : LineTable} {start stop otherStop : Nat}
    {kind otherKind : LineKind} (range : table.Range start stop kind)
    (otherRange : table.Range start otherStop otherKind) : otherStop ≤ stop := by
  have within := otherRange.within
  by_cases between : stop < otherStop
  · rcases range.ended with last | ⟨next, told⟩
    · omega
    · have missing := otherRange.untold stop range.nonempty between
      rw [told] at missing
      contradiction
  · omega

theorem Range.unique {table : LineTable} {start stop other otherStop line : Nat}
    {kind otherKind : LineKind} (range : table.Range start stop kind)
    (otherRange : table.Range other otherStop otherKind)
    (least : start ≤ line) (below : line < stop)
    (otherLeast : other ≤ line) (otherBelow : line < otherStop) :
    start = other ∧ stop = otherStop ∧ kind = otherKind := by
  have sameStart : start = other :=
    Nat.le_antisymm (otherRange.start_le range otherBelow least)
      (range.start_le otherRange below otherLeast)
  subst sameStart
  refine ⟨rfl, Nat.le_antisymm (otherRange.stop_le range) (range.stop_le otherRange), ?_⟩
  have sameKind := range.told
  rw [otherRange.told, Option.some.injEq] at sameKind
  exact sameKind.symm

def nearest (table : LineTable) (line : Int64) : Nat :=
  min (lineIndex line) (table.length - 1)

theorem Valid.nearest_lt {table : LineTable} (valid : table.Valid) (line : Int64) :
    table.nearest line < table.length := by
  have nonempty := valid.nonempty
  simp only [nearest]
  omega

theorem Valid.entry_atOrBelow {table : LineTable} (valid : table.Valid) (index : Nat) :
    ∃ entry, table.entries.atOrBelow? index = some entry := by
  cases found : table.entries.atOrBelow? index with
  | some entry => exact ⟨entry, rfl⟩
  | none =>
      have missing := NumberMap.atOrBelow?_none found (Nat.zero_le index)
      rw [valid.zero] at missing
      contradiction

theorem resolve_of_entries {table : LineTable} {line : Int64} {start : Nat} {kind : LineKind}
    (found : table.entries.atOrBelow? (table.nearest line) = some (start, kind)) :
    table.resolve line = ⟨decide (kind = .start), start,
      ((table.entries.above? start).map (·.1)).getD table.length⟩ := by
  simp only [nearest] at found
  simp [resolve, found]

theorem Valid.resolve_range {table : LineTable} (valid : table.Valid) (line : Int64) :
    ∃ kind, table.Range (table.resolve line).start (table.resolve line).stop kind ∧
      (table.resolve line).verified = decide (kind = .start) ∧
      (table.resolve line).start ≤ table.nearest line ∧
      table.nearest line < (table.resolve line).stop := by
  obtain ⟨⟨start, kind⟩, found⟩ := valid.entry_atOrBelow (table.nearest line)
  obtain ⟨told, least, between⟩ := NumberMap.atOrBelow?_some found
  have inside := valid.nearest_lt line
  simp only at told least between
  cases next : table.entries.above? start with
  | none =>
      have range : table.Range start table.length kind := {
        told := told
        nonempty := by omega
        within := Nat.le_refl _
        untold := fun other above _ => NumberMap.above?_none next above
        ended := Or.inl rfl
      }
      have resolved : table.resolve line = ⟨decide (kind = .start), start, table.length⟩ := by
        rw [resolve_of_entries found, next]
        rfl
      rw [resolved]
      exact ⟨kind, range, rfl, least, inside⟩
  | some entry =>
      obtain ⟨nextTold, above, untold⟩ := NumberMap.above?_some next
      have beyond : table.nearest line < entry.1 := by
        by_cases most : entry.1 ≤ table.nearest line
        · have missing := between entry.1 above most
          rw [nextTold] at missing
          contradiction
        · omega
      have within : entry.1 ≤ table.length := by
        rcases valid.covered entry.1 entry.2 nextTold with below | ⟨last, long⟩
        · exact Nat.le_of_lt below
        · exact Nat.le_of_eq (last.trans long.symm)
      have range : table.Range start entry.1 kind :=
        ⟨told, above, within, untold, Or.inr ⟨entry.2, nextTold⟩⟩
      have resolved : table.resolve line = ⟨decide (kind = .start), start, entry.1⟩ := by
        rw [resolve_of_entries found, next]
        rfl
      rw [resolved]
      exact ⟨kind, range, rfl, least, beyond⟩

theorem Valid.resolve_eq {table : LineTable} (valid : table.Valid) {line : Int64}
    {start stop : Nat} {kind : LineKind} (range : table.Range start stop kind)
    (least : start ≤ table.nearest line) (below : table.nearest line < stop) :
    table.resolve line = ⟨decide (kind = .start), start, stop⟩ := by
  obtain ⟨_, found, verified, foundLeast, foundBelow⟩ := valid.resolve_range line
  obtain ⟨sameStart, sameStop, sameKind⟩ := found.unique range foundLeast foundBelow least below
  exact Resolution.ext (by rw [verified, sameKind]) sameStart sameStop

theorem Valid.resolve_bounds {table : LineTable} (valid : table.Valid) (line : Int64) :
    (table.resolve line).start < (table.resolve line).stop ∧
      (table.resolve line).stop ≤ maxLine := by
  obtain ⟨kind, range, _⟩ := valid.resolve_range line
  exact ⟨range.nonempty, Nat.le_trans range.within valid.limited⟩

/-- A resolution starts at the nearest line told of, which decides whether it is verified. -/
theorem resolve_of_nearest {table : LineTable} {line : Int64} {start : Nat} {kind : LineKind}
    (found : table.entries.atOrBelow? (table.nearest line) = some (start, kind)) :
    (table.resolve line).start = start ∧
      (table.resolve line).verified = decide (kind = .start) := by
  rw [resolve_of_entries found]
  exact ⟨rfl, rfl⟩

theorem nearest_of_within {table : LineTable} {line : Int64} (least : 0 ≤ line.toInt)
    (below : line.toInt < table.length) : table.nearest line = lineIndex line := by
  simp only [nearest, lineIndex]
  omega

theorem contains_eq_true_iff {resolution : Resolution} {line : Int64} :
    resolution.contains line = true ↔
      (resolution.start : Int) ≤ line.toInt ∧ line.toInt < resolution.stop := by
  simp [Resolution.contains]

/-- A resolution holds exactly the lines that go with the line told of where it starts. -/
theorem Valid.contains_resolve_iff {table : LineTable} (valid : table.Valid) (asked : Int64)
    {line : Int64} {start : Nat} {kind : LineKind} (least : 0 ≤ line.toInt)
    (below : line.toInt < table.length)
    (found : table.entries.atOrBelow? (lineIndex line) = some (start, kind)) :
    (table.resolve asked).contains line = true ↔ (table.resolve asked).start = start := by
  obtain ⟨_, askedRange, _⟩ := valid.resolve_range asked
  obtain ⟨_, range, _, atLeast, before⟩ := valid.resolve_range line
  have nearest := nearest_of_within least below
  rw [← nearest] at found
  have starts := (resolve_of_nearest found).1
  rw [nearest, lineIndex] at atLeast before
  rw [contains_eq_true_iff, ← starts]
  constructor
  · rintro ⟨askedLeast, askedBelow⟩
    have holds : (table.resolve asked).start ≤ line.toInt.toNat := by omega
    have ends : line.toInt.toNat < (table.resolve asked).stop := by omega
    exact (askedRange.unique range holds ends atLeast before).1
  · intro same
    have stops := (askedRange.unique range (Nat.le_refl _) askedRange.nonempty
      (Nat.le_of_eq same.symm) (same ▸ range.nonempty)).2.1
    omega

end Debuggee.LineTable
