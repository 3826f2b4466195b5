import Debuggee.Proofs.LineTable.Order
import Debuggee.Proofs.Registry.Lookup

/-!
The order in which files are loaded and breakpoints are set. Where breakpoints end up depends on what
the lines of their file were last told as, and on nothing else.
-/

namespace Debuggee.Registry

theorem tableAfter_of_register {calls : List Call} {path : String}
    (told : ∃ line kind, Call.register path line kind ∈ calls) :
    tableAfter calls path = some (.ofLines (linesTold calls path)) := by
  obtain ⟨line, kind, member⟩ := told
  rw [tableAfter]
  split
  · rename_i empty
    exact absurd member (linesTold_eq_nil_iff.mp (List.isEmpty_iff.mp empty) line kind)
  · rfl

theorem Coherent.resolution_of_told {calls : List Call} {registry : Registry}
    (coherent : Coherent calls registry) {breakpoint : LineBreakpoint}
    (stored : breakpoint ∈ registry.breakpoints.values)
    (told : ∃ line kind, Call.register breakpoint.runtimePath line kind ∈ calls) :
    breakpoint.resolution =
      some ((LineTable.ofLines (linesTold calls breakpoint.runtimePath)).resolve
        breakpoint.asked.line) := by
  rw [coherent.resolution_of_mem stored, coherent.table, tableAfter_of_register told,
    Option.map_some]

/--
Tables that were told of the same lines in another order, more often, or with other words in between,
are equal as long as each line was last told as the same. After any two histories in which that is
so for a file, breakpoints of that file for the same line have the same resolution.
-/
theorem order_irrelevant :
    (∀ first second : List (Int64 × LineKind), LineTable.TellAlike first second →
      LineTable.ofLines first = LineTable.ofLines second) ∧
    ∀ (calls others : List Call) (path : String),
      (∃ line kind, Call.register path line kind ∈ calls) →
      (∃ line kind, Call.register path line kind ∈ others) →
      LineTable.TellAlike (linesTold calls path) (linesTold others path) →
      ∀ breakpoint ∈ (run {} calls).breakpoints.values,
        ∀ other ∈ (run {} others).breakpoints.values,
          breakpoint.runtimePath = path → other.runtimePath = path →
          breakpoint.asked.line = other.asked.line →
          breakpoint.resolution = other.resolution ∧ breakpoint.resolution ≠ none := by
  refine ⟨fun first second alike => alike.ofLines_eq, ?_⟩
  intro calls others path told otherTold alike breakpoint stored other otherStored here there line
  subst here
  have resolved := (coherent_run calls).resolution_of_told stored told
  have otherResolved :=
    (coherent_run others).resolution_of_told otherStored (there.symm ▸ otherTold)
  rw [there, ← line, ← alike.ofLines_eq] at otherResolved
  rw [resolved, otherResolved]
  exact ⟨rfl, Option.some_ne_none _⟩

theorem order_irrelevant_when_overwritten :
    let calls : List Call :=
      [.register "play" 3 .invalid, .replace "a" "play" {} [{ line := 4 }] false,
        .register "play" 3 .start, .register "play" 5 .invalid]
    let others : List Call :=
      [.register "play" 5 .invalid, .register "play" (-7) .start, .register "play" 3 .start,
        .replace "b" "play" {} [{ line := 4 }] false]
    let breakpoint : LineBreakpoint := ⟨1, {}, { line := 4 }, "a", "play", some ⟨true, 3, 5⟩⟩
    let other : LineBreakpoint := ⟨1, {}, { line := 4 }, "b", "play", some ⟨true, 3, 5⟩⟩
    (breakpoint ∈ (run {} calls).breakpoints.values ∧
      other ∈ (run {} others).breakpoints.values) ∧
    breakpoint.resolution = other.resolution ∧
    LineTable.ofLines (linesTold calls "play") = LineTable.ofLines (linesTold others "play") := by
  intro calls others breakpoint other
  have alike : LineTable.TellAlike (linesTold calls "play") (linesTold others "play") := by
    intro line positive
    have above : (-7 : Int64) ≠ line := by
      rintro rfl
      exact absurd positive (by decide)
    have told : linesTold calls "play" = [(3, .invalid), (3, .start), (5, .invalid)] := by decide
    have otherTold : linesTold others "play" = [(5, .invalid), (-7, .start), (3, .start)] := by
      decide
    rw [told, otherTold]
    by_cases third : 3 = line
    · subst third
      decide
    · by_cases fifth : 5 = line
      · simp [LineTable.lastKind?, third, fifth, above]
      · simp [LineTable.lastKind?, third, fifth, above]
  have stored : breakpoint ∈ (run {} calls).breakpoints.values := by decide
  have otherStored : other ∈ (run {} others).breakpoints.values := by decide
  have resolved := order_irrelevant.2 calls others "play" ⟨3, .start, by simp [calls]⟩
    ⟨3, .start, by simp [others]⟩ alike breakpoint stored other otherStored rfl rfl rfl
  exact ⟨⟨stored, otherStored⟩, resolved.1, order_irrelevant.1 _ _ alike⟩

end Debuggee.Registry
