import Debuggee.Proofs.Registry.History

/-!
The parts of a registry stay in step, whatever it is asked: breakpoints are kept under their own
numbers, they are resolved by what their file is known to hold, and numbers are never given twice.
-/

namespace Debuggee.Registry

structure Kept (registry : Registry) (key : Nat) (breakpoint : LineBreakpoint) : Prop where
  key_eq : key = breakpoint.id
  positive : 1 ≤ breakpoint.id
  below : breakpoint.id < registry.nextId
  resolution : breakpoint.resolution =
    (registry.table? breakpoint.runtimePath).map fun table => table.resolve breakpoint.asked.line

structure Coherent (calls : List Call) (registry : Registry) : Prop where
  table : ∀ path, registry.table? path = tableAfter calls path
  nextId : registry.nextId = 1 + allocated calls
  kept : ∀ key breakpoint, registry.breakpoints.get? key = some breakpoint →
    registry.Kept key breakpoint

theorem Coherent.key_below {calls : List Call} {registry : Registry}
    (coherent : Coherent calls registry) (key : Nat) (breakpoint : LineBreakpoint)
    (found : registry.breakpoints.get? key = some breakpoint) : key < registry.nextId := by
  have kept := coherent.kept key breakpoint found
  rw [kept.key_eq]
  exact kept.below

theorem allocated_concat (calls : List Call) (call : Call) :
    allocated (calls ++ [call]) = allocated calls + call.asks := by
  simp [allocated]

theorem coherent_fresh : Coherent [] {} := by
  constructor
  · intro path
    rfl
  · rfl
  · intro key breakpoint found
    contradiction

theorem Coherent.register {calls : List Call} {registry : Registry}
    (coherent : Coherent calls registry) (path : String) (line : Int64) (kind : LineKind) :
    Coherent (calls ++ [.register path line kind]) (registry.register path line kind).1 := by
  constructor
  · intro query
    rw [table?_register, tableAfter_register, tableTold, coherent.table, coherent.table]
  · rw [allocated_concat]
    exact coherent.nextId
  · intro key breakpoint found
    rw [get?_register, Option.map_eq_some_iff] at found
    obtain ⟨before, stored, same⟩ := found
    have kept := coherent.kept key before stored
    subst same
    by_cases here : before.runtimePath = path
    · rw [LineBreakpoint.refresh_of_path _ here]
      refine ⟨kept.key_eq, kept.positive, kept.below, ?_⟩
      rw [table?_register, if_pos here]
      rfl
    · rw [LineBreakpoint.refresh_of_other _ here]
      refine ⟨kept.key_eq, kept.positive, kept.below, ?_⟩
      rw [table?_register, if_neg here]
      exact kept.resolution

theorem Coherent.replace {calls : List Call} {registry : Registry}
    (coherent : Coherent calls registry) (clientPath runtimePath : String) (source : Source)
    (asked : List SourceBreakpoint) (modified : Bool) :
    Coherent (calls ++ [.replace clientPath runtimePath source asked modified])
      (registry.replace clientPath runtimePath source asked modified).1 := by
  constructor
  · intro query
    rw [table?_replace, tableAfter_of_told_none calls rfl]
    exact coherent.table query
  · rw [nextId_replace, allocated_concat, coherent.nextId, Call.asks]
    omega
  · intro key breakpoint found
    rw [get?_replace registry clientPath runtimePath source asked modified coherent.key_below]
      at found
    rcases found with ⟨_, same, member⟩ | ⟨stored, _⟩
    · obtain ⟨least, below, _, sameRuntime, resolved⟩ := mem_create member
      have positive : 1 ≤ registry.nextId := by
        rw [coherent.nextId]
        omega
      refine ⟨same.symm, by omega, by rwa [nextId_replace], ?_⟩
      rw [table?_replace, sameRuntime]
      exact resolved
    · have kept := coherent.kept key breakpoint stored
      have below := kept.below
      refine ⟨kept.key_eq, kept.positive, by rw [nextId_replace]; omega, ?_⟩
      rw [table?_replace]
      exact kept.resolution

theorem Coherent.perform {calls : List Call} {registry : Registry}
    (coherent : Coherent calls registry) (call : Call) :
    Coherent (calls ++ [call]) (registry.perform call).1 := by
  cases call with
  | register path line kind => exact coherent.register path line kind
  | replace clientPath runtimePath source asked modified =>
      exact coherent.replace clientPath runtimePath source asked modified
  | lookup path line =>
      constructor
      · intro query
        rw [tableAfter_of_told_none calls rfl]
        exact coherent.table query
      · rw [allocated_concat]
        exact coherent.nextId
      · exact coherent.kept

theorem coherent_run (calls : List Call) : Coherent calls (run {} calls) := by
  induction calls using List.reverseRecOn with
  | nil => exact coherent_fresh
  | append_singleton calls call ih =>
      rw [run_concat]
      exact ih.perform call

theorem reported_ids (registry : Registry) (clientPath runtimePath : String) (source : Source)
    (asked : List SourceBreakpoint) (modified : Bool) :
    (registry.replace clientPath runtimePath source asked modified).2.filterMap (·.id) =
      (List.range' registry.nextId asked.length).map Int64.ofNat := by
  rw [reports_replace, ← registry.created_ids clientPath runtimePath source asked,
    List.filterMap_map, List.map_map, ← List.filterMap_eq_map]
  apply List.filterMap_congr
  intro breakpoint _
  cases modified with
  | true => rfl
  | false => exact breakpoint.report_id

/-- Numbers are given in their order, starting from one. -/
theorem givenIds_trace (calls : List Call) :
    givenIds (trace {} calls) = (List.range' 1 (allocated calls)).map Int64.ofNat := by
  induction calls using List.reverseRecOn with
  | nil => rfl
  | append_singleton calls call ih =>
      have split : givenIds (trace {} (calls ++ [call])) = givenIds (trace {} calls) ++
          givenIds [(call, ((run {} calls).perform call).2)] := by
        rw [trace_concat, givenIds, List.flatMap_append]
        rfl
      rw [split, ih, allocated_concat, List.range'_append_1.symm, List.map_append]
      congr 1
      cases call with
      | register path line kind => rfl
      | replace clientPath runtimePath source asked modified =>
          rw [← (coherent_run calls).nextId]
          simp only [givenIds, List.flatMap_singleton]
          exact reported_ids (run {} calls) clientPath runtimePath source asked modified
      | lookup path line => rfl

theorem ofNat_injective {first second : Nat} (firstBound : first < 2 ^ 63)
    (secondBound : second < 2 ^ 63) (same : Int64.ofNat first = Int64.ofNat second) :
    first = second := by
  have equal := congrArg Int64.toInt same
  rw [Int64.toInt_ofNat_of_lt firstBound, Int64.toInt_ofNat_of_lt secondBound] at equal
  omega

/-- While numbers fit their type, a report tells which breakpoint it is about. -/
theorem Coherent.eq_of_reported_id {calls : List Call} {registry : Registry}
    (coherent : Coherent calls registry) (few : registry.nextId ≤ 2 ^ 63) {key otherKey : Nat}
    {breakpoint other : LineBreakpoint}
    (found : registry.breakpoints.get? key = some breakpoint)
    (otherFound : registry.breakpoints.get? otherKey = some other)
    (same : Int64.ofNat other.id = Int64.ofNat breakpoint.id) : other = breakpoint := by
  have kept := coherent.kept key breakpoint found
  have otherKept := coherent.kept otherKey other otherFound
  have bound := kept.below
  have otherBound := otherKept.below
  have sameId : other.id = breakpoint.id := ofNat_injective (by omega) (by omega) same
  rw [otherKept.key_eq, sameId, ← kept.key_eq, found, Option.some.injEq] at otherFound
  exact otherFound.symm

theorem givenIds_nodup {calls : List Call} (few : allocated calls < 2 ^ 63) :
    (givenIds (trace {} calls)).Nodup := by
  rw [givenIds_trace, List.nodup_map_iff_inj_on List.nodup_range']
  intro first firstIn second secondIn same
  rw [List.mem_range'_1] at firstIn secondIn
  exact ofNat_injective (by omega) (by omega) same

/--
After any calls, every breakpoint is kept under its own number, which has been given out, and is
resolved by the current table of its file as soon as a line of the file has been told of. While
numbers fit their type, none is given twice.
-/
theorem coherence (calls : List Call) :
    (∀ key breakpoint, (run {} calls).breakpoints.get? key = some breakpoint →
      key = breakpoint.id ∧ 1 ≤ breakpoint.id ∧ breakpoint.id < (run {} calls).nextId ∧
      (breakpoint.resolution = none ↔
        ∀ line kind, .register breakpoint.runtimePath line kind ∉ calls) ∧
      (breakpoint.resolution = none ∨
        ∃ table, (run {} calls).table? breakpoint.runtimePath = some table ∧
          breakpoint.resolution = some (table.resolve breakpoint.asked.line))) ∧
    (∀ path, (run {} calls).table? path = tableAfter calls path) ∧
    (allocated calls < 2 ^ 63 → (givenIds (trace {} calls)).Nodup) := by
  have coherent := coherent_run calls
  refine ⟨?_, coherent.table, givenIds_nodup⟩
  intro key breakpoint found
  have kept := coherent.kept key breakpoint found
  refine ⟨kept.key_eq, kept.positive, kept.below, ?_, ?_⟩
  · rw [kept.resolution, Option.map_eq_none_iff, coherent.table, tableAfter_eq_none_iff]
  · cases table : (run {} calls).table? breakpoint.runtimePath with
    | none => exact Or.inl (by rw [kept.resolution, table, Option.map_none])
    | some current =>
        exact Or.inr ⟨current, rfl, by rw [kept.resolution, table, Option.map_some]⟩

theorem coherence_shared_file :
    let calls : List Call := [.replace "one" "file" {} [{ line := 9 }] false,
      .register "file" 3 .start, .replace "two" "file" {} [{ line := 1 }] false, .lookup "file" 3]
    ((run {} calls).breakpoints.get? 1).map (·.resolution) = some (some ⟨true, 3, 4⟩) ∧
      ((run {} calls).breakpoints.get? 2).map (·.resolution) = some (some ⟨false, 0, 3⟩) ∧
      (givenIds (trace {} calls)).Nodup :=
  ⟨by decide, by decide, (coherence _).2.2 (by decide)⟩

end Debuggee.Registry
