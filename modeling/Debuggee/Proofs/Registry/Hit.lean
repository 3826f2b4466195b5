import Debuggee.Proofs.Registry.Change
import Debuggee.Proofs.Registry.Order

/-!
What the run is told when a task starts. It stops for the first of the breakpoints in the file that
are resolved to the lines of that task, if there is any; breakpoints in other files have no say.
-/

namespace Debuggee

theorem NumberMap.atOrBelow?_of_get? {α : Type} {map : NumberMap α} {key : Nat} {value : α}
    (stored : map.get? key = some value) : map.atOrBelow? key = some (key, value) := by
  cases found : map.atOrBelow? key with
  | none =>
      rw [NumberMap.atOrBelow?_none found (Nat.le_refl key)] at stored
      contradiction
  | some entry =>
      obtain ⟨told, most, between⟩ := NumberMap.atOrBelow?_some found
      by_cases below : entry.1 < key
      · rw [between key below (Nat.le_refl key)] at stored
        contradiction
      · have same : entry.1 = key := by omega
        rw [same, stored, Option.some.injEq] at told
        rw [Option.some.injEq]
        exact Prod.ext same told.symm

namespace Registry

def Targets (table : LineTable) (path : String) (start : Nat) (breakpoint : LineBreakpoint) : Prop :=
  breakpoint.runtimePath = path ∧ (table.resolve breakpoint.asked.line).start = start

section Kept

variable {calls : List Call} {registry : Registry} (coherent : Coherent calls registry)
variable {path : String} {line : Int64} {kind : LineKind}

include coherent in
/-- A line above zero goes with itself once it is told of, but for the greatest line. -/
theorem Coherent.toldAt?_of_last (positive : 0 < line.toInt) (inside : line.toInt < 2 ^ 63 - 1)
    (last : LineTable.lastKind? (linesTold calls path) line = some kind) :
    registry.toldAt? path line = some (LineTable.lineIndex line, kind) := by
  have told : linesTold calls path ≠ [] := by
    intro untold
    simp [untold, LineTable.lastKind?] at last
  have known : registry.table? path = some (.ofLines (linesTold calls path)) := by
    rw [coherent.table, tableAfter, if_neg (by simpa using told)]
  have above : LineTable.lineIndex line ≠ 0 := by
    rw [ne_eq, LineTable.lineIndex_eq_zero_iff]
    omega
  have stored := LineTable.get?_ofLines (linesTold calls path) above
  rw [last] at stored
  have covered := (LineTable.valid_ofLines (linesTold calls path)).covered _ _ stored
  refine toldAt?_eq_some_iff.mpr ⟨_, known, ?_, NumberMap.atOrBelow?_of_get? stored⟩
  simp only [LineTable.maxLine_eq, LineTable.lineIndex] at covered
  omega

include coherent in
theorem Coherent.mem_resolvedTo_iff {table : LineTable} (known : registry.table? path = some table)
    {start : Nat} {breakpoint : LineBreakpoint} :
    breakpoint ∈ registry.resolvedTo path start ↔
      breakpoint ∈ registry.breakpoints.values ∧ Targets table path start breakpoint := by
  simp only [resolvedTo, Targets, List.mem_filter, Bool.and_eq_true, decide_eq_true_eq]
  refine and_congr_right fun stored => and_congr_right fun here => ?_
  subst here
  rw [coherent.resolution_of_mem stored, known, Option.map_some, Option.any_some,
    decide_eq_true_eq]

include coherent in
theorem Coherent.id_le_of_resolvedTo {start : Nat} {first : LineBreakpoint}
    (found : (registry.resolvedTo path start).head? = some first) {other : LineBreakpoint}
    (member : other ∈ registry.resolvedTo path start) : first.id ≤ other.id := by
  obtain ⟨rest, whole⟩ := List.head?_eq_some_iff.mp found
  have ascending : (registry.resolvedTo path start).Pairwise
      fun earlier later => earlier.id < later.id := coherent.values_ascending.filter _
  rw [whole] at ascending member
  rcases List.mem_cons.mp member with same | later
  · rw [same]
  · exact Nat.le_of_lt ((List.pairwise_cons.mp ascending).1 other later)

end Kept

theorem lookup_of_sameFile {registry other : Registry} {path : String} (line : Int64)
    (same : other.breakpoints.values.filter (·.runtimePath = path) =
      registry.breakpoints.values.filter (·.runtimePath = path)) :
    other.lookup path line = registry.lookup path line := by
  have own : ∀ any : Registry, any.lookup path line =
      (any.breakpoints.values.filter (·.runtimePath = path)).find?
        fun breakpoint => breakpoint.covers path line := by
    intro any
    rw [List.find?_filter, lookup]
    apply List.find?_congr
    intro breakpoint _
    by_cases here : breakpoint.runtimePath = path <;> simp [LineBreakpoint.covers, here]
  rw [own, own, same]

/--
At a line that was last told of as the start of a task, a lookup finds a breakpoint exactly if one is
kept in that file whose line is resolved to the lines of the task. It is the one with the least
number, and verified. Whatever breakpoints there are in other files, the answer is the same.
-/
theorem lookup_start (calls : List Call) (path : String) (line : Int64)
    (positive : 0 < line.toInt) (inside : line.toInt < 2 ^ 63 - 1)
    (starts : LineTable.lastKind? (linesTold calls path) line = some .start) :
    let registry := run {} calls
    let start := LineTable.lineIndex line
    ∃ table, registry.table? path = some table ∧
      (registry.lookup path line ≠ none ↔
        ∃ breakpoint ∈ registry.breakpoints.values, Targets table path start breakpoint) ∧
      (∀ found, registry.lookup path line = some found →
        (found ∈ registry.breakpoints.values ∧ Targets table path start found) ∧
        (∀ breakpoint ∈ registry.breakpoints.values, Targets table path start breakpoint →
          found.id ≤ breakpoint.id) ∧
        ∃ stop, found.resolution = some ⟨true, start, stop⟩) ∧
      ∀ other : Registry, other.breakpoints.values.filter (·.runtimePath = path) =
          registry.breakpoints.values.filter (·.runtimePath = path) →
        other.lookup path line = registry.lookup path line := by
  intro registry start
  have coherent : Coherent calls registry := coherent_run calls
  have told : registry.toldAt? path line = some (start, .start) :=
    coherent.toldAt?_of_last positive inside starts
  have first := coherent.lookup_of_toldAt? told
  obtain ⟨table, known, _⟩ := toldAt?_eq_some_iff.mp told
  refine ⟨table, known, ?_, ?_, fun other => lookup_of_sameFile line⟩
  · rw [first, ne_eq, List.head?_eq_none_iff, List.eq_nil_iff_forall_not_mem, not_forall_not]
    exact exists_congr fun breakpoint => coherent.mem_resolvedTo_iff known
  · intro found hit
    rw [first] at hit
    have member := List.mem_of_head? hit
    have kept := (coherent.mem_resolvedTo_iff known).mp member
    refine ⟨kept, ?_, ?_⟩
    · intro breakpoint stored targets
      exact coherent.id_le_of_resolvedTo hit
        ((coherent.mem_resolvedTo_iff known).mpr ⟨stored, targets⟩)
    · have resolved := coherent.resolution_of_mem kept.1
      have verified := coherent.verified_of_mem_resolvedTo told member
      rw [kept.2.1, known, Option.map_some] at resolved
      simp only [LineBreakpoint.report, resolved, decide_true] at verified
      refine ⟨(table.resolve found.asked.line).stop, resolved.trans (congrArg some ?_)⟩
      exact Resolution.ext verified kept.2.2 rfl

def sharedTask : List Call :=
  [.register "play" 3 .invalid, .register "play" 8 .start, .register "role" 3 .start,
    .replace "elsewhere" "role" {} [{ line := 3 }] false,
    .replace "here" "play" {} [{ line := 8 }, { line := 5 }, { line := 4 }] false,
    .register "play" 3 .start]

theorem lookup_start_of_sharedTask :
    let found : LineBreakpoint := ⟨3, {}, { line := 5 }, "here", "play", some ⟨true, 3, 8⟩⟩
    (0 < (3 : Int64).toInt ∧ (3 : Int64).toInt < 2 ^ 63 - 1 ∧
      LineTable.lastKind? (linesTold sharedTask "play") 3 = some .start) ∧
    (run {} sharedTask).lookup "play" 3 = some found ∧
      ∀ breakpoint ∈ (run {} sharedTask).breakpoints.values,
        breakpoint.runtimePath = "play" → breakpoint.resolution = some ⟨true, 3, 8⟩ →
          3 ≤ breakpoint.id := by
  intro found
  have starts : LineTable.lastKind? (linesTold sharedTask "play") 3 = some .start := by decide
  refine ⟨⟨by decide, by decide, starts⟩, by decide, ?_⟩
  obtain ⟨table, known, _, least, _⟩ :=
    lookup_start sharedTask "play" 3 (by decide) (by decide) starts
  intro breakpoint stored here resolved
  refine (least found (by decide)).2.1 breakpoint stored ⟨here, ?_⟩
  have current := (coherent_run sharedTask).resolution_of_mem stored
  rw [here, known, resolved, Option.map_some, Option.some.injEq] at current
  rw [← current]
  decide

end Registry

end Debuggee
