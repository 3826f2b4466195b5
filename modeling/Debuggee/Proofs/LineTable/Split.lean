import Debuggee.Proofs.LineTable.Partition

/-!
What telling of one line does to the ranges of a table. Within the table the line cuts its range in
two; past the end the last range grows up to it. No other range changes.
-/

namespace Debuggee.LineTable

section Ranges

variable {table : LineTable} {line : Int64} (kind : LineKind)
variable {start stop : Nat} {told : LineKind} (range : table.Range start stop told)
variable (positive : lineIndex line ≠ 0)

include positive in
theorem length_register_inside (inside : lineIndex line < table.length) :
    (table.register line kind).length = table.length := by
  rw [length_register table kind positive, if_neg (by omega)]

include positive in
theorem length_register_beyond (beyond : table.length ≤ lineIndex line)
    (limited : lineIndex line < maxLine) :
    (table.register line kind).length = lineIndex line + 1 := by
  rw [length_register table kind positive, if_pos beyond]
  omega

include range positive in
theorem Range.cut_below (above : start < lineIndex line) (below : lineIndex line < stop) :
    (table.register line kind).Range start (lineIndex line) told := by
  have within := range.within
  constructor
  · rw [get?_register table kind positive, if_neg (by omega)]
    exact range.told
  · exact above
  · rw [length_register_inside kind positive (by omega)]
    omega
  · intro other later earlier
    rw [get?_register table kind positive, if_neg (by omega)]
    exact range.untold other later (by omega)
  · right
    rw [get?_register table kind positive, if_pos rfl]
    exact ⟨kind, rfl⟩

include range positive in
theorem Range.cut_above (least : start ≤ lineIndex line) (below : lineIndex line < stop) :
    (table.register line kind).Range (lineIndex line) stop kind := by
  have within := range.within
  have length := length_register_inside kind positive (by omega : lineIndex line < table.length)
  constructor
  · rw [get?_register table kind positive, if_pos rfl]
  · exact below
  · rwa [length]
  · intro other later earlier
    rw [get?_register table kind positive, if_neg (by omega)]
    exact range.untold other (by omega) earlier
  · rw [length, get?_register table kind positive, if_neg (by omega)]
    exact range.ended

include range positive in
theorem Range.register (apart : lineIndex line < start ∨ stop ≤ lineIndex line)
    (closed : lineIndex line < table.length ∨ stop < table.length) :
    (table.register line kind).Range start stop told := by
  have within := range.within
  have nonempty := range.nonempty
  have length := length_register table kind positive
  have limited := lineIndex_le line
  constructor
  · rw [get?_register table kind positive, if_neg (by omega)]
    exact range.told
  · exact nonempty
  · rw [length]
    split <;> omega
  · intro other later earlier
    rw [get?_register table kind positive, if_neg (by omega)]
    exact range.untold other later earlier
  · rw [get?_register table kind positive]
    by_cases here : stop = lineIndex line
    · rw [if_pos here]
      exact Or.inr ⟨kind, rfl⟩
    · rw [if_neg here]
      rcases range.ended with last | next
      · left
        rw [length, if_neg (by omega), last]
      · exact Or.inr next

end Ranges

theorem Valid.positive_of_beyond {table : LineTable} (valid : table.Valid) {line : Int64}
    (beyond : table.length ≤ lineIndex line) : lineIndex line ≠ 0 := by
  have nonempty := valid.nonempty
  omega

section Beyond

variable {table : LineTable} (valid : table.Valid) {line : Int64} (kind : LineKind)
variable (beyond : table.length ≤ lineIndex line) (limited : lineIndex line < maxLine)
include valid beyond limited

theorem Valid.range_grown {start : Nat} {told : LineKind}
    (range : table.Range start table.length told) :
    (table.register line kind).Range start (lineIndex line) told := by
  have positive := valid.positive_of_beyond beyond
  have nonempty := range.nonempty
  constructor
  · rw [get?_register table kind positive, if_neg (by omega)]
    exact range.told
  · omega
  · rw [length_register_beyond kind positive beyond limited]
    omega
  · intro other later earlier
    rw [get?_register table kind positive, if_neg (by omega)]
    by_cases old : other < table.length
    · exact range.untold other later old
    · cases found : table.entries.get? other with
      | none => rfl
      | some any =>
          have covered := valid.covered other any found
          omega
  · right
    rw [get?_register table kind positive, if_pos rfl]
    exact ⟨kind, rfl⟩

theorem Valid.range_added :
    (table.register line kind).Range (lineIndex line) (lineIndex line + 1) kind := by
  have positive := valid.positive_of_beyond beyond
  have length := length_register_beyond kind positive beyond limited
  constructor
  · rw [get?_register table kind positive, if_pos rfl]
  · omega
  · rw [length]
  · intro other later earlier
    omega
  · exact Or.inl length.symm

end Beyond

section Resolve

variable {table : LineTable} (valid : table.Valid) {line : Int64} (kind : LineKind)
include valid

/-- A line within the table cuts its range in two. -/
theorem Valid.resolve_register_inside (positive : lineIndex line ≠ 0)
    (inside : lineIndex line < table.length) (asked : Int64) :
    (table.register line kind).resolve asked =
      if table.nearest asked < (table.resolve line).start ∨
          (table.resolve line).stop ≤ table.nearest asked then
        table.resolve asked
      else if table.nearest asked < lineIndex line then
        { table.resolve line with stop := lineIndex line }
      else ⟨decide (kind = .start), lineIndex line, (table.resolve line).stop⟩ := by
  have grown := valid.register line kind
  have nearest : (table.register line kind).nearest asked = table.nearest asked := by
    rw [LineTable.nearest, length_register_inside kind positive inside, ← LineTable.nearest]
  have own : table.nearest line = lineIndex line := by
    simp only [LineTable.nearest]
    omega
  obtain ⟨told, range, verified, least, below⟩ := valid.resolve_range line
  rw [own] at least below
  split
  · rename_i apart
    obtain ⟨_, other, otherVerified, otherLeast, otherBelow⟩ := valid.resolve_range asked
    have without : lineIndex line < (table.resolve asked).start ∨
        (table.resolve asked).stop ≤ lineIndex line := by
      by_contra holds
      have same := range.unique other least below (by omega) (by omega)
      omega
    have kept := other.register kind positive without (Or.inl inside)
    rw [grown.resolve_eq kept (by omega) (by omega), ← otherVerified]
  · split
    · rename_i early
      have kept := range.cut_below kind positive (by omega) below
      rw [grown.resolve_eq kept (by omega) (by omega), ← verified]
    · have added := range.cut_above kind positive least below
      rw [grown.resolve_eq added (by omega) (by omega)]

/-- Up to a line past the end the table is filled with its last range. -/
theorem Valid.resolve_register_beyond (beyond : table.length ≤ lineIndex line)
    (limited : lineIndex line < maxLine) (asked : Int64) :
    (table.resolve line).stop = table.length ∧
      (table.register line kind).resolve asked =
        if lineIndex asked < (table.resolve line).start then table.resolve asked
        else if lineIndex asked < lineIndex line then
          { table.resolve line with stop := lineIndex line }
        else ⟨decide (kind = .start), lineIndex line, lineIndex line + 1⟩ := by
  have grown := valid.register line kind
  have positive := valid.positive_of_beyond beyond
  have nonempty := valid.nonempty
  have nearest : (table.register line kind).nearest asked =
      min (lineIndex asked) (lineIndex line) := by
    rw [LineTable.nearest, length_register_beyond kind positive beyond limited,
      Nat.add_sub_cancel]
  have own : table.nearest line = table.length - 1 := by
    simp only [LineTable.nearest]
    omega
  obtain ⟨told, range, verified, least, below⟩ := valid.resolve_range line
  have within := range.within
  have last : (table.resolve line).stop = table.length := by omega
  refine ⟨last, ?_⟩
  split
  · rename_i early
    obtain ⟨_, other, otherVerified, otherLeast, otherBelow⟩ := valid.resolve_range asked
    have asIs : table.nearest asked = lineIndex asked := by
      simp only [LineTable.nearest]
      omega
    have before : (table.resolve asked).stop < table.length := by
      by_contra reaches
      have same := range.unique other least below (by omega) (by omega)
      omega
    have kept := other.register kind positive (Or.inr (by omega)) (Or.inr before)
    rw [grown.resolve_eq kept (by omega) (by omega), ← otherVerified]
  · split
    · rw [last] at range
      have kept := valid.range_grown kind beyond limited range
      rw [grown.resolve_eq kept (by omega) (by omega), ← verified]
    · have added := valid.range_added kind beyond limited
      rw [grown.resolve_eq added (by omega) (by omega)]

end Resolve

/--
What lines are resolved to once a table has been told of one more line. Within the table, the range
that holds the line ends at it, and what is left of the range is one of its own. Past the end, the
last range goes on up to the line, which is a range of its own. Lines up to zero change nothing.
-/
theorem resolve_register (lines : List (Int64 × LineKind)) (line : Int64) (kind : LineKind) :
    let table := ofLines lines
    let grown := table.register line kind
    let old := table.resolve line
    (0 < line.toInt → line.toInt < 2 ^ 63 - 1 →
      (lineIndex line < table.length → old.contains line = true ∧
        ∀ asked, grown.resolve asked =
          if table.nearest asked < old.start ∨ old.stop ≤ table.nearest asked then
            table.resolve asked
          else if table.nearest asked < lineIndex line then { old with stop := lineIndex line }
          else ⟨decide (kind = .start), lineIndex line, old.stop⟩) ∧
      (table.length ≤ lineIndex line → old.stop = table.length ∧
        ∀ asked, grown.resolve asked =
          if lineIndex asked < old.start then table.resolve asked
          else if lineIndex asked < lineIndex line then { old with stop := lineIndex line }
          else ⟨decide (kind = .start), lineIndex line, lineIndex line + 1⟩)) ∧
    (line.toInt ≤ 0 → ∀ asked, grown.resolve asked = table.resolve asked) := by
  intro table grown old
  have valid := valid_ofLines lines
  constructor
  · intro above below
    have positive : lineIndex line ≠ 0 := mt lineIndex_eq_zero_iff.mp (not_le.mpr above)
    constructor
    · intro inside
      have natural : line.toInt < table.length := by
        simp only [lineIndex] at inside
        omega
      exact ⟨valid.contains_resolve (by omega) natural,
        valid.resolve_register_inside kind positive inside⟩
    · intro beyond
      have limited : lineIndex line < maxLine := by
        simp only [lineIndex, maxLine_eq]
        omega
      have grows := valid.resolve_register_beyond kind beyond limited
      exact ⟨(grows line).1, fun asked => (grows asked).2⟩
  · intro low asked
    have same : grown = table := register_of_zero table kind (lineIndex_eq_zero_iff.mpr low)
    rw [same]

theorem resolve_register_of_three_lines :
    let lines : List (Int64 × LineKind) := [(3, .start), (7, .invalid)]
    (((ofLines lines).register 5 .invalid).resolve 6 = ⟨false, 5, 7⟩ ∧
      ((ofLines lines).register 5 .invalid).resolve 4 = ⟨true, 3, 5⟩) ∧
    (((ofLines lines).register 12 .start).resolve 9 = ⟨false, 7, 12⟩ ∧
      ((ofLines lines).register 12 .start).resolve 100 = ⟨true, 12, 13⟩) ∧
    ((ofLines lines).register (-1) .start).resolve 4 = (ofLines lines).resolve 4 := by
  intro lines
  have cut := ((resolve_register lines 5 .invalid).1 (by decide) (by decide)).1 (by decide)
  have appended := ((resolve_register lines 12 .start).1 (by decide) (by decide)).2 (by decide)
  have passed := (resolve_register lines (-1) .start).2 (by decide)
  refine ⟨⟨?_, ?_⟩, ⟨?_, ?_⟩, passed 4⟩
  · rw [cut.2 6]
    decide
  · rw [cut.2 4]
    decide
  · rw [appended.2 9]
    decide
  · rw [appended.2 100]
    decide

end Debuggee.LineTable
