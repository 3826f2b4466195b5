import Debuggee.Proofs.Registry.Coherence

/-!
Where the run is told to stop. A lookup goes by the ranges that breakpoints are resolved to: it finds
the first breakpoint that goes with the same line told of, be it one where a task starts or not.
-/

namespace Debuggee.Registry

def toldAt? (registry : Registry) (path : String) (line : Int64) : Option (Nat × LineKind) :=
  match registry.table? path with
  | none => none
  | some table =>
    if 0 ≤ line.toInt ∧ line.toInt < table.length then
      table.entries.atOrBelow? (LineTable.lineIndex line)
    else none

def resolvedTo (registry : Registry) (path : String) (start : Nat) : List LineBreakpoint :=
  registry.breakpoints.values.filter fun breakpoint =>
    breakpoint.runtimePath = path && breakpoint.resolution.any (·.start = start)

theorem toldAt?_eq_some_iff {registry : Registry} {path : String} {line : Int64} {start : Nat}
    {kind : LineKind} :
    registry.toldAt? path line = some (start, kind) ↔
      ∃ table, registry.table? path = some table ∧
        (0 ≤ line.toInt ∧ line.toInt < table.length) ∧
        table.entries.atOrBelow? (LineTable.lineIndex line) = some (start, kind) := by
  unfold toldAt?
  cases registry.table? path with
  | none => simp
  | some table => simp

section Kept

variable {calls : List Call} {registry : Registry} {breakpoint : LineBreakpoint}

theorem Coherent.resolution_of_mem (coherent : Coherent calls registry)
    (member : breakpoint ∈ registry.breakpoints.values) :
    breakpoint.resolution =
      (registry.table? breakpoint.runtimePath).map fun table =>
        table.resolve breakpoint.asked.line := by
  obtain ⟨key, found⟩ := NumberMap.mem_values_iff.mp member
  exact (coherent.kept key breakpoint found).resolution

theorem Coherent.valid_of_table? (coherent : Coherent calls registry) {path : String}
    {table : LineTable} (known : registry.table? path = some table) : table.Valid := by
  rw [coherent.table] at known
  exact valid_of_tableAfter known

theorem Coherent.inside_of_covers (coherent : Coherent calls registry)
    (member : breakpoint ∈ registry.breakpoints.values) {path : String} {line : Int64}
    (covers : breakpoint.covers path line = true) :
    ∃ table, registry.table? path = some table ∧
      0 ≤ line.toInt ∧ line.toInt < table.length := by
  simp only [LineBreakpoint.covers, Bool.and_eq_true, decide_eq_true_eq] at covers
  obtain ⟨rfl, contained⟩ := covers
  rw [coherent.resolution_of_mem member] at contained
  cases known : registry.table? breakpoint.runtimePath with
  | none => simp [known] at contained
  | some table =>
      rw [known, Option.map_some, Option.any_some, LineTable.contains_eq_true_iff] at contained
      obtain ⟨_, range, _⟩ :=
        (coherent.valid_of_table? known).resolve_range breakpoint.asked.line
      have within := range.within
      exact ⟨table, rfl, by omega, by omega⟩

/-- A breakpoint covers the lines of its file that go with the line told of it is resolved to. -/
theorem Coherent.covers_eq (coherent : Coherent calls registry)
    (member : breakpoint ∈ registry.breakpoints.values) {path : String} {line : Int64}
    {start : Nat} {kind : LineKind} (told : registry.toldAt? path line = some (start, kind)) :
    breakpoint.covers path line =
      (breakpoint.runtimePath = path && breakpoint.resolution.any (·.start = start)) := by
  obtain ⟨table, known, ⟨least, below⟩, found⟩ := toldAt?_eq_some_iff.mp told
  unfold LineBreakpoint.covers
  by_cases here : breakpoint.runtimePath = path
  · subst here
    rw [coherent.resolution_of_mem member, known, Option.map_some, Option.any_some,
      Option.any_some]
    congr 1
    rw [Bool.eq_iff_iff, decide_eq_true_eq]
    exact (coherent.valid_of_table? known).contains_resolve_iff breakpoint.asked.line least below
      found
  · simp [here]

theorem Coherent.lookup_of_toldAt? (coherent : Coherent calls registry) {path : String}
    {line : Int64} {start : Nat} {kind : LineKind}
    (told : registry.toldAt? path line = some (start, kind)) :
    registry.lookup path line = (registry.resolvedTo path start).head? := by
  rw [resolvedTo, List.head?_filter, lookup]
  apply List.find?_congr
  intro breakpoint member
  exact coherent.covers_eq member told

theorem Coherent.lookup_of_untold (coherent : Coherent calls registry) {path : String}
    {line : Int64} (untold : registry.toldAt? path line = none) :
    registry.lookup path line = none := by
  rw [lookup, List.find?_eq_none]
  intro breakpoint member covers
  obtain ⟨table, known, inside⟩ := coherent.inside_of_covers member covers
  obtain ⟨⟨start, kind⟩, found⟩ :=
    (coherent.valid_of_table? known).entry_atOrBelow (LineTable.lineIndex line)
  rw [toldAt?_eq_some_iff.mpr ⟨table, known, inside, found⟩] at untold
  contradiction

theorem Coherent.verified_of_mem_resolvedTo (coherent : Coherent calls registry) {path : String}
    {line : Int64} {start : Nat} {kind : LineKind}
    (told : registry.toldAt? path line = some (start, kind))
    (member : breakpoint ∈ registry.resolvedTo path start) :
    breakpoint.report.verified = decide (kind = .start) := by
  obtain ⟨table, known, _, found⟩ := toldAt?_eq_some_iff.mp told
  simp only [resolvedTo, List.mem_filter, Bool.and_eq_true, decide_eq_true_eq] at member
  obtain ⟨stored, rfl, starts⟩ := member
  have resolved := coherent.resolution_of_mem stored
  rw [known, Option.map_some] at resolved
  rw [resolved, Option.any_some, decide_eq_true_eq] at starts
  obtain ⟨own, range, verified, _⟩ :=
    (coherent.valid_of_table? known).resolve_range breakpoint.asked.line
  have entry := range.told
  rw [starts, (NumberMap.atOrBelow?_some found).1, Option.some.injEq] at entry
  rw [← entry] at verified
  simp only [LineBreakpoint.report, resolved]
  exact verified

end Kept

/--
After any calls, a lookup finds the first of the breakpoints that go with the line told of at or
above the line asked about. Such a breakpoint has been reported as one to stop at exactly if a task
starts at that line told of; one that cannot be set there is found all the same.
-/
theorem lookup_eq_nearest (calls : List Call) (path : String) (line : Int64) :
    (run {} calls).lookup path line =
        ((run {} calls).toldAt? path line).bind (fun told =>
          ((run {} calls).resolvedTo path told.1).head?) ∧
      ∀ found, (run {} calls).lookup path line = some found →
        (found.report.verified = true ↔
          ∃ start, (run {} calls).toldAt? path line = some (start, .start)) := by
  have coherent := coherent_run calls
  cases told : (run {} calls).toldAt? path line with
  | none =>
      rw [coherent.lookup_of_untold told]
      simp
  | some entry =>
      obtain ⟨start, kind⟩ := entry
      rw [coherent.lookup_of_toldAt? told]
      refine ⟨rfl, ?_⟩
      intro found first
      rw [coherent.verified_of_mem_resolvedTo told (List.mem_of_head? first)]
      simp

theorem lookup_eq_nearest_below_start :
    ∃ found, (run {} [.register "site.yml" 3 .start, .register "site.yml" 7 .invalid,
        .replace "site.yml" "site.yml" {} [{ line := 5 }] false]).lookup "site.yml" 4 =
          some found ∧
      found.report.verified = true := by
  let found : LineBreakpoint :=
    ⟨1, {}, { line := 5 }, "site.yml", "site.yml", some ⟨true, 3, 7⟩⟩
  have hit : (run {} [.register "site.yml" 3 .start, .register "site.yml" 7 .invalid,
      .replace "site.yml" "site.yml" {} [{ line := 5 }] false]).lookup "site.yml" 4 =
        some found := by
    decide
  refine ⟨found, hit, ?_⟩
  rw [(lookup_eq_nearest _ "site.yml" 4).2 found hit]
  exact ⟨3, by decide⟩

def unstoppable : List Call :=
  [.register "site.yml" 3 .invalid, .replace "site.yml" "site.yml" {} [{ line := 3 }] false]

/-- The run is told to stop where the client was told that it cannot. -/
theorem lookup_unverified :
    (run {} unstoppable).toldAt? "site.yml" 3 = some (3, .invalid) ∧
      ∃ found, (run {} unstoppable).lookup "site.yml" 3 = some found ∧
        found.report.verified = false ∧ found.report.message = some invalidLineMessage := by
  refine ⟨by decide, ⟨1, {}, { line := 3 }, "site.yml", "site.yml", some ⟨false, 3, 4⟩⟩, ?_⟩
  decide

end Debuggee.Registry
