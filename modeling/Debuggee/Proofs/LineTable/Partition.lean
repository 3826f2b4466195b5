import Debuggee.Proofs.LineTable.Word

/-!
The lines of a table are shared out among the ranges that lines are resolved to. Every line is in one
range, all lines of a range are resolved to it, and words of 64 bits are enough to compute it.
-/

namespace Debuggee.LineTable

section Valid

variable {table : LineTable} (valid : table.Valid)
include valid

theorem Valid.resolve_of_within {line other : Int64}
    (least : (table.resolve line).start ≤ table.nearest other)
    (below : table.nearest other < (table.resolve line).stop) :
    table.resolve other = table.resolve line := by
  obtain ⟨kind, range, verified, _⟩ := valid.resolve_range line
  rw [valid.resolve_eq range least below, ← verified]

theorem Valid.nearest_of_contains {line other : Int64}
    (holds : (table.resolve line).contains other = true) :
    table.nearest other = lineIndex other := by
  obtain ⟨least, below⟩ := contains_eq_true_iff.mp holds
  obtain ⟨_, range, _⟩ := valid.resolve_range line
  have within := range.within
  exact nearest_of_within (by omega) (by omega)

/-- A line is resolved to every range that holds it, so there is only one. -/
theorem Valid.resolve_of_contains {line other : Int64}
    (holds : (table.resolve line).contains other = true) :
    table.resolve other = table.resolve line := by
  have nearest := valid.nearest_of_contains holds
  obtain ⟨least, below⟩ := contains_eq_true_iff.mp holds
  rw [lineIndex] at nearest
  exact valid.resolve_of_within (by omega) (by omega)

theorem Valid.contains_resolve {line : Int64} (least : 0 ≤ line.toInt)
    (below : line.toInt < table.length) : (table.resolve line).contains line = true := by
  obtain ⟨_, _, _, atLeast, before⟩ := valid.resolve_range line
  rw [nearest_of_within least below, lineIndex] at atLeast before
  exact contains_eq_true_iff.mpr ⟨by omega, by omega⟩

end Valid

/--
Whatever a table was told, a line is resolved to a range of the table that holds it, or that holds
the nearest line of the table. A table of words comes to the same range without overflow, and a
breakpoint there is reported up to the last line of the range. All lines of a range are resolved to
it, and two ranges are equal or have no line in common.
-/
theorem ranges_partition (lines : List (Int64 × LineKind)) (line : Int64) :
    let table := ofLines lines
    let resolution := table.resolve line
    (resolution.start ≤ table.nearest line ∧ table.nearest line < resolution.stop ∧
      resolution.stop ≤ table.length) ∧
    ((WordTable.ofLines lines).Holds table ∧
      ∃ range last, (WordTable.ofLines lines).resolve? line = some range ∧
        range.Denotes resolution ∧ range.endLine? = some last ∧ range.start ≤ last ∧
        ∀ breakpoint : LineBreakpoint, breakpoint.resolution = some resolution →
          breakpoint.report.line = some range.start ∧ breakpoint.report.endLine = some last) ∧
    (∀ other, resolution.contains other = true → table.resolve other = resolution) ∧
    ∀ other, table.resolve other = resolution ∨
      ∀ shared, resolution.contains shared = true →
        (table.resolve other).contains shared = false := by
  intro table resolution
  have valid := valid_ofLines lines
  have holds := WordTable.holds_ofLines lines
  obtain ⟨_, bounds, _, least, below⟩ := valid.resolve_range line
  obtain ⟨range, computed, denotes⟩ := holds.resolve? valid line
  obtain ⟨last, endLine, _, ordered⟩ := denotes.endLine bounds.nonempty
  refine ⟨⟨least, below, bounds.within⟩, ⟨holds, range, last, computed, denotes, endLine,
    ordered, ?_⟩, fun other inside => valid.resolve_of_contains inside, ?_⟩
  · intro breakpoint resolved
    obtain ⟨first, final⟩ := denotes.report bounds.nonempty resolved
    exact ⟨first, final.trans endLine⟩
  · intro other
    by_cases same : table.resolve other = resolution
    · exact Or.inl same
    · right
      intro shared inside
      by_contra also
      rw [Bool.not_eq_false] at also
      exact same ((valid.resolve_of_contains also).symm.trans (valid.resolve_of_contains inside))

theorem ranges_partition_at_end :
    let lines : List (Int64 × LineKind) :=
      [(Int64.maxValue, .start), (-4, .start), (3, .start), (9, .invalid)]
    let table := ofLines lines
    let resolution := table.resolve Int64.maxValue
    let breakpoint : LineBreakpoint := ⟨1, {}, { line := 12 }, "play", "play", some resolution⟩
    resolution = ⟨false, 9, maxLine⟩ ∧
      (resolution.contains 700 = true ∧ table.resolve 700 = resolution) ∧
      (table.resolve 3).contains 700 = false ∧
      (WordTable.ofLines lines).resolve? Int64.maxValue ≠ none ∧
      breakpoint.report.line ≠ none := by
  intro lines table resolution breakpoint
  obtain ⟨_, ⟨_, range, last, computed, _, _, _, reported⟩, same, apart⟩ :=
    ranges_partition lines Int64.maxValue
  have inside : resolution.contains 700 = true := by decide
  have different : table.resolve 3 ≠ resolution := by decide
  refine ⟨by decide, ⟨inside, same 700 inside⟩, (apart 3).resolve_left different 700 inside, ?_, ?_⟩
  · rw [computed]
    exact Option.some_ne_none range
  · rw [(reported breakpoint rfl).1]
    exact Option.some_ne_none range.start

end Debuggee.LineTable
