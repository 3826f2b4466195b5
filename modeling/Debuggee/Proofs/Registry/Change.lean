import Debuggee.Proofs.Registry.Coherence

/-!
What the client is told when the run tells of a line: the breakpoints whose reports differ from
before, all of them and no others, in the order of their numbers.
-/

namespace Debuggee

theorem LineBreakpoint.resolution_eq_of_report_eq {breakpoint : LineBreakpoint}
    {resolution : Option Resolution}
    (bounds : ∀ known, breakpoint.resolution = some known →
      known.start < known.stop ∧ known.stop ≤ LineTable.maxLine)
    (otherBounds : ∀ known, resolution = some known →
      known.start < known.stop ∧ known.stop ≤ LineTable.maxLine)
    (same : { breakpoint with resolution := resolution }.report = breakpoint.report) :
    resolution = breakpoint.resolution := by
  have notLoaded (verified : Bool) :
      (if verified then none else some invalidLineMessage) ≠ some notLoadedMessage := by
    cases verified <;> simp [invalidLineMessage, notLoadedMessage]
  cases known : breakpoint.resolution with
  | none =>
      cases resolution with
      | none => rfl
      | some found =>
          have messages := congrArg Breakpoint.message same
          simp only [report, known] at messages
          exact absurd messages (notLoaded found.verified)
  | some expected =>
      cases resolution with
      | none =>
          have messages := congrArg Breakpoint.message same
          simp only [report, known] at messages
          exact absurd messages.symm (notLoaded expected.verified)
      | some found =>
          have bound := bounds expected known
          have otherBound := otherBounds found rfl
          simp only [LineTable.maxLine_eq] at bound otherBound
          simp only [report, known, Breakpoint.mk.injEq, Option.some.injEq] at same
          obtain ⟨_, sameVerified, _, _, sameStart, _, sameEnd, _⟩ := same
          have start := Registry.ofNat_injective (by omega) (by omega) sameStart
          have stop := Registry.ofNat_injective (by omega) (by omega) sameEnd
          rw [Option.some.injEq]
          exact Resolution.ext sameVerified start (by omega)

namespace Registry

theorem Coherent.bounds {calls : List Call} {registry : Registry}
    (coherent : Coherent calls registry) {key : Nat} {breakpoint : LineBreakpoint}
    (found : registry.breakpoints.get? key = some breakpoint) (known : Resolution)
    (resolved : breakpoint.resolution = some known) :
    known.start < known.stop ∧ known.stop ≤ LineTable.maxLine := by
  rw [(coherent.kept key breakpoint found).resolution, coherent.table,
    Option.map_eq_some_iff] at resolved
  obtain ⟨table, told, same⟩ := resolved
  rw [← same]
  exact (valid_of_tableAfter told).resolve_bounds breakpoint.asked.line

theorem reports_register (registry : Registry) (path : String) (line : Int64) (kind : LineKind) :
    (registry.register path line kind).2 =
      (registry.breakpoints.values.filter fun breakpoint =>
        breakpoint.refresh path (registry.tableTold path line kind) ≠ breakpoint).map
          fun breakpoint =>
            (breakpoint.refresh path (registry.tableTold path line kind)).report := rfl

theorem mem_reports_register {registry : Registry} {path : String} {line : Int64}
    {kind : LineKind} {report : Breakpoint} :
    report ∈ (registry.register path line kind).2 ↔
      ∃ key before, registry.breakpoints.get? key = some before ∧
        before.refresh path (registry.tableTold path line kind) ≠ before ∧
        report = (before.refresh path (registry.tableTold path line kind)).report := by
  simp only [reports_register, List.mem_map, List.mem_filter, decide_eq_true_eq,
    NumberMap.mem_values_iff]
  constructor
  · rintro ⟨before, ⟨⟨key, found⟩, changed⟩, same⟩
    exact ⟨key, before, found, changed, same.symm⟩
  · rintro ⟨key, before, found, changed, same⟩
    exact ⟨before, ⟨⟨key, found⟩, changed⟩, same.symm⟩

theorem Coherent.report_refresh_eq_iff {calls : List Call} {registry : Registry}
    (coherent : Coherent calls registry) {key : Nat} {before : LineBreakpoint}
    (found : registry.breakpoints.get? key = some before) (path : String) (line : Int64)
    (kind : LineKind) :
    (before.refresh path (registry.tableTold path line kind)).report = before.report ↔
      before.refresh path (registry.tableTold path line kind) = before := by
  have refreshed := before.refresh_eq path (registry.tableTold path line kind)
  have after := coherent.register path line kind
  have stored : (registry.register path line kind).1.breakpoints.get? key =
      some (before.refresh path (registry.tableTold path line kind)) := by
    rw [get?_register, found, Option.map_some]
  constructor
  · intro same
    rw [refreshed] at same ⊢
    have resolution := LineBreakpoint.resolution_eq_of_report_eq (coherent.bounds found)
      (after.bounds stored) same
    rw [resolution]
  · exact congrArg LineBreakpoint.report

def changedReports (before after : Registry) : List Breakpoint :=
  ((before.breakpoints.values.zip after.breakpoints.values).filter fun states =>
    states.2.report ≠ states.1.report).map fun states => states.2.report

theorem values_register (registry : Registry) (path : String) (line : Int64) (kind : LineKind) :
    (registry.register path line kind).1.breakpoints.values =
      registry.breakpoints.values.map
        (LineBreakpoint.refresh path (registry.tableTold path line kind)) :=
  NumberMap.values_mapValues _ _

theorem ids_register (registry : Registry) (path : String) (line : Int64) (kind : LineKind) :
    (registry.register path line kind).1.breakpoints.values.map (·.id) =
      registry.breakpoints.values.map (·.id) := by
  rw [values_register, List.map_map]
  apply List.map_congr_left
  intro breakpoint _
  exact breakpoint.refresh_id path (registry.tableTold path line kind)

/-- The client is told of all that it would see change, and of nothing else. -/
theorem Coherent.reports_eq_changed {calls : List Call} {registry : Registry}
    (coherent : Coherent calls registry) (path : String) (line : Int64) (kind : LineKind) :
    (registry.register path line kind).2 =
      changedReports registry (registry.register path line kind).1 := by
  have visible : ∀ before ∈ registry.breakpoints.values,
      decide (before.refresh path (registry.tableTold path line kind) ≠ before) =
        decide ((before.refresh path (registry.tableTold path line kind)).report ≠
          before.report) := by
    intro before member
    obtain ⟨key, found⟩ := NumberMap.mem_values_iff.mp member
    rw [decide_eq_decide, not_iff_not]
    exact (coherent.report_refresh_eq_iff found path line kind).symm
  rw [reports_register, List.filter_congr visible, changedReports, values_register,
    ← List.map_prod_left_eq_zip, List.filter_map, List.map_map]
  rfl

theorem Coherent.values_ascending {calls : List Call} {registry : Registry}
    (coherent : Coherent calls registry) :
    registry.breakpoints.values.Pairwise (fun earlier later => earlier.id < later.id) := by
  rw [NumberMap.values, List.pairwise_map]
  refine registry.breakpoints.ascending.imp_of_mem ?_
  intro earlier later earlierIn laterIn below
  have earlierKept := coherent.kept _ _ (NumberMap.get?_eq_some_iff.mpr earlierIn)
  have laterKept := coherent.kept _ _ (NumberMap.get?_eq_some_iff.mpr laterIn)
  rwa [← earlierKept.key_eq, ← laterKept.key_eq]

theorem Coherent.ids_ascending {calls : List Call} {registry : Registry}
    (coherent : Coherent calls registry) (few : registry.nextId ≤ 2 ^ 63) (path : String)
    (line : Int64) (kind : LineKind) :
    ((registry.register path line kind).2.filterMap (·.id)).Pairwise (· < ·) := by
  have ids : (registry.register path line kind).2.filterMap (·.id) =
      (registry.breakpoints.values.filter fun breakpoint =>
        breakpoint.refresh path (registry.tableTold path line kind) ≠ breakpoint).map
          fun breakpoint => Int64.ofNat breakpoint.id := by
    rw [reports_register, List.filterMap_map, ← List.filterMap_eq_map]
    apply List.filterMap_congr
    intro breakpoint _
    rw [Function.comp_apply, LineBreakpoint.report_id, LineBreakpoint.refresh_id]
    rfl
  rw [ids, List.pairwise_map]
  refine (coherent.values_ascending.filter _).imp_of_mem ?_
  intro earlier later earlierIn laterIn below
  obtain ⟨earlierKey, earlierFound⟩ :=
    NumberMap.mem_values_iff.mp (List.mem_of_mem_filter earlierIn)
  obtain ⟨laterKey, laterFound⟩ := NumberMap.mem_values_iff.mp (List.mem_of_mem_filter laterIn)
  have earlierBound := (coherent.kept earlierKey earlier earlierFound).below
  have laterBound := (coherent.kept laterKey later laterFound).below
  exact (Int64.ofNat_lt_iff_lt (by omega) (by omega)).mpr below

theorem Coherent.id_mem_reports_iff {calls : List Call} {registry : Registry}
    (coherent : Coherent calls registry) (few : registry.nextId ≤ 2 ^ 63) {key : Nat}
    {before : LineBreakpoint} (found : registry.breakpoints.get? key = some before)
    (path : String) (line : Int64) (kind : LineKind) :
    Int64.ofNat before.id ∈ (registry.register path line kind).2.filterMap (·.id) ↔
      (before.refresh path (registry.tableTold path line kind)).report ≠ before.report := by
  rw [ne_eq, coherent.report_refresh_eq_iff found, List.mem_filterMap]
  constructor
  · rintro ⟨report, member, named⟩
    obtain ⟨otherKey, other, otherFound, changed, same⟩ := mem_reports_register.mp member
    rw [same, LineBreakpoint.report_id, LineBreakpoint.refresh_id, Option.some.injEq] at named
    rw [← coherent.eq_of_reported_id few found otherFound named]
    exact changed
  · intro changed
    refine ⟨_, mem_reports_register.mpr ⟨key, before, found, changed, rfl⟩, ?_⟩
    rw [LineBreakpoint.report_id, LineBreakpoint.refresh_id]

end Registry

end Debuggee
