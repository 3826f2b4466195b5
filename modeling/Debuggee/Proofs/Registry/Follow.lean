import Debuggee.Proofs.Registry.Change
import Debuggee.Proofs.Registry.Replica

/-!
A client that follows what it is told holds every breakpoint as it is. Each call keeps the client in
step with the registry, and so does every run.
-/

namespace Debuggee.Replica

open Registry (Call run trace allocated)

/-- How a client that has followed all exchanges agrees with the registry. -/
structure Follows (exchanges : List (Call × List Breakpoint)) (registry : Registry)
    (replica : Replica) : Prop where
  held : ∀ key breakpoint, registry.breakpoints.get? key = some breakpoint →
    replica.held (Int64.ofNat breakpoint.id) = some breakpoint.report
  owned : ∀ key breakpoint, registry.breakpoints.get? key = some breakpoint →
    Int64.ofNat breakpoint.id ∈ replica.reported breakpoint.clientPath
  given : ∀ path id, id ∈ replica.reported path →
    ∃ number, number < registry.nextId ∧ id = Int64.ofNat number
  apart : ∀ path other id, id ∈ replica.reported path → id ∈ replica.reported other → path = other
  holds : ∀ path id, replica.Holds path id ↔ Expected registry exchanges path id

theorem follows_fresh : Follows [] {} {} := by
  constructor
  · intro key breakpoint found
    contradiction
  · intro key breakpoint found
    contradiction
  · intro path id member
    simp at member
  · intro path other id member
    simp at member
  · intro path id
    constructor
    · intro holds
      simp [Holds] at holds
    · rintro ⟨key, breakpoint, found, _⟩
      contradiction

variable {calls : List Call} {registry : Registry} {replica : Replica}
variable {exchanges : List (Call × List Breakpoint)}

section Register

variable {path : String} {line : Int64} {kind : LineKind}

theorem stored_register_iff {key : Nat} {breakpoint : LineBreakpoint} :
    (registry.register path line kind).1.breakpoints.get? key = some breakpoint ↔
      ∃ before, registry.breakpoints.get? key = some before ∧
        before.refresh path (registry.tableTold path line kind) = breakpoint := by
  rw [Registry.get?_register, Option.map_eq_some_iff]

theorem store_register (held : Int64 → Option Breakpoint)
    (coherent : Registry.Coherent calls registry) (few : registry.nextId ≤ 2 ^ 63) {key : Nat}
    {before : LineBreakpoint} (found : registry.breakpoints.get? key = some before)
    (told : Int64.ofNat before.id ∈ (registry.register path line kind).2.filterMap (·.id)) :
    store held (registry.register path line kind).2 (Int64.ofNat before.id) =
      some (before.refresh path (registry.tableTold path line kind)).report := by
  obtain ⟨report, member, named, stored⟩ := store_of_mem held told
  obtain ⟨otherKey, other, otherFound, _, same⟩ := Registry.mem_reports_register.mp member
  rw [same, LineBreakpoint.report_id, LineBreakpoint.refresh_id, Option.some.injEq] at named
  rw [stored, same, coherent.eq_of_reported_id few found otherFound named]

theorem Follows.held_register (follows : Follows exchanges registry replica)
    (coherent : Registry.Coherent calls registry) (few : registry.nextId ≤ 2 ^ 63) {key : Nat}
    {before : LineBreakpoint} (found : registry.breakpoints.get? key = some before) :
    store replica.held (registry.register path line kind).2 (Int64.ofNat before.id) =
      some (before.refresh path (registry.tableTold path line kind)).report := by
  by_cases told : Int64.ofNat before.id ∈
      (registry.register path line kind).2.filterMap (·.id)
  · exact store_register replica.held coherent few found told
  · have unchanged : (before.refresh path (registry.tableTold path line kind)).report =
        before.report := by
      rwa [coherent.id_mem_reports_iff few found, not_not] at told
    rw [store_of_absent replica.held told, unchanged]
    exact follows.held key before found

theorem Follows.known_register_iff (follows : Follows exchanges registry replica) (id : Int64) :
    store replica.held (registry.register path line kind).2 id ≠ none ↔ replica.held id ≠ none := by
  by_cases told : id ∈ (registry.register path line kind).2.filterMap (·.id)
  · obtain ⟨report, member, named, _⟩ := store_of_mem replica.held told
    obtain ⟨key, before, found, _, same⟩ := Registry.mem_reports_register.mp member
    rw [same, LineBreakpoint.report_id, LineBreakpoint.refresh_id, Option.some.injEq] at named
    have known : replica.held id ≠ none := by
      rw [← named, follows.held key before found]
      exact Option.some_ne_none before.report
    exact iff_of_true (store_ne_none_of_mem replica.held told) known
  · rw [store_of_absent replica.held told]

theorem expected_register_iff {reports : List Breakpoint} {asked : String} {id : Int64} :
    Expected (registry.register path line kind).1
        (exchanges ++ [(.register path line kind, reports)]) asked id ↔
      Expected registry exchanges asked id := by
  have silent : replaced? asked (.register path line kind, reports) = none := rfl
  rw [Expected, Expected, lastReplaced_concat, silent, Option.none_or]
  split
  · exact Iff.rfl
  · constructor
    · rintro ⟨key, breakpoint, found, ofPath, same⟩
      obtain ⟨before, beforeFound, refreshed⟩ := stored_register_iff.mp found
      rw [← refreshed, LineBreakpoint.refresh_clientPath] at ofPath
      rw [← refreshed, LineBreakpoint.refresh_id] at same
      exact ⟨key, before, beforeFound, ofPath, same⟩
    · rintro ⟨key, before, found, ofPath, same⟩
      refine ⟨key, _, stored_register_iff.mpr ⟨before, found, rfl⟩, ?_, ?_⟩
      · rwa [LineBreakpoint.refresh_clientPath]
      · rwa [LineBreakpoint.refresh_id]

theorem Follows.register (follows : Follows exchanges registry replica)
    (coherent : Registry.Coherent calls registry) (few : registry.nextId ≤ 2 ^ 63) :
    Follows (exchanges ++ [(.register path line kind, (registry.register path line kind).2)])
      (registry.register path line kind).1
      (replica.update (registry.register path line kind).2) := by
  constructor
  · intro key breakpoint found
    obtain ⟨before, beforeFound, same⟩ := stored_register_iff.mp found
    rw [← same, LineBreakpoint.refresh_id]
    exact follows.held_register coherent few beforeFound
  · intro key breakpoint found
    obtain ⟨before, beforeFound, same⟩ := stored_register_iff.mp found
    rw [← same, LineBreakpoint.refresh_id, LineBreakpoint.refresh_clientPath]
    exact follows.owned key before beforeFound
  · exact follows.given
  · exact follows.apart
  · intro asked id
    have holds : (replica.update (registry.register path line kind).2).Holds asked id ↔
        replica.Holds asked id :=
      and_congr_right fun _ => follows.known_register_iff id
    rw [holds, follows.holds, expected_register_iff]

end Register

section Replace

variable {clientPath runtimePath : String} {source : Source} {asked : List SourceBreakpoint}
variable {modified : Bool}

theorem mem_reported_ids_iff {id : Int64} :
    id ∈ (registry.replace clientPath runtimePath source asked modified).2.filterMap (·.id) ↔
      ∃ number, registry.nextId ≤ number ∧ number < registry.nextId + asked.length ∧
        id = Int64.ofNat number := by
  rw [Registry.reported_ids, List.mem_map]
  constructor
  · rintro ⟨number, member, same⟩
    obtain ⟨least, below⟩ := List.mem_range'_1.mp member
    exact ⟨number, least, below, same.symm⟩
  · rintro ⟨number, least, below, same⟩
    exact ⟨number, List.mem_range'_1.mpr ⟨least, below⟩, same.symm⟩

theorem mem_reported_ids_iff_created {id : Int64} :
    id ∈ (registry.replace clientPath runtimePath source asked modified).2.filterMap (·.id) ↔
      ∃ breakpoint ∈ registry.created clientPath runtimePath source asked,
        id = Int64.ofNat breakpoint.id := by
  rw [Registry.reported_ids, ← registry.created_ids clientPath runtimePath source asked,
    List.map_map, List.mem_map]
  simp only [Function.comp_apply, eq_comm]

theorem Follows.fresh (follows : Follows exchanges registry replica)
    (few : registry.nextId + asked.length ≤ 2 ^ 63) :
    replica.Fresh (registry.replace clientPath runtimePath source asked modified).2 := by
  intro path id old new
  obtain ⟨number, below, same⟩ := follows.given path id old
  obtain ⟨other, least, bound, otherSame⟩ := mem_reported_ids_iff.mp new
  have equal : number = other :=
    Registry.ofNat_injective (by omega) (by omega) (same.symm.trans otherSame)
  omega

theorem store_replace (held : Int64 → Option Breakpoint)
    (few : registry.nextId + asked.length ≤ 2 ^ 63) {breakpoint : LineBreakpoint}
    (member : breakpoint ∈ registry.created clientPath runtimePath source asked) :
    store held (registry.replace clientPath runtimePath source asked modified).2
        (Int64.ofNat breakpoint.id) =
      some (if modified then modifiedReport breakpoint.id source else breakpoint.report) := by
  have reportId : ∀ made : LineBreakpoint,
      (if modified then modifiedReport made.id source else made.report).id =
        some (Int64.ofNat made.id) := by
    intro made
    cases modified with
    | true => rfl
    | false => exact made.report_id
  obtain ⟨report, belongs, named, stored⟩ :=
    store_of_mem held (mem_reported_ids_iff_created.mpr ⟨breakpoint, member, rfl⟩)
  rw [Registry.reports_replace] at belongs
  obtain ⟨made, madeMember, same⟩ := List.mem_map.mp belongs
  rw [← same, reportId, Option.some.injEq] at named
  have bound := (Registry.mem_create member).2.1
  have madeBound := (Registry.mem_create madeMember).2.1
  have sameId : made.id = breakpoint.id :=
    Registry.ofNat_injective (by omega) (by omega) named
  have distinct := registry.created_ids_nodup clientPath runtimePath source asked
  rw [stored, ← same, List.inj_on_of_nodup_map distinct madeMember member sameId]

theorem expected_replaced_iff (coherent : Registry.Coherent calls registry) {id : Int64} :
    Expected (registry.replace clientPath runtimePath source asked modified).1
        (exchanges ++ [(.replace clientPath runtimePath source asked modified,
          (registry.replace clientPath runtimePath source asked modified).2)]) clientPath id ↔
      id ∈ (registry.replace clientPath runtimePath source asked modified).2.filterMap
        (·.id) := by
  have stored := Registry.get?_replace registry clientPath runtimePath source asked modified
    coherent.key_below
  have last : replaced? clientPath (.replace clientPath runtimePath source asked modified,
      (registry.replace clientPath runtimePath source asked modified).2) =
        some (modified, (registry.replace clientPath runtimePath source asked modified).2) :=
    if_pos rfl
  rw [Expected, lastReplaced_concat, last, Option.some_or]
  cases modified with
  | true => exact Iff.rfl
  | false =>
      rw [mem_reported_ids_iff_created]
      constructor
      · rintro ⟨key, breakpoint, found, ofPath, same⟩
        rcases (stored key breakpoint).mp found with ⟨_, _, member⟩ | ⟨_, different⟩
        · exact ⟨breakpoint, member, same⟩
        · exact absurd ofPath different
      · rintro ⟨breakpoint, member, same⟩
        exact ⟨breakpoint.id, breakpoint, (stored _ _).mpr (Or.inl ⟨rfl, rfl, member⟩),
          (Registry.mem_create member).2.2.1, same⟩

theorem expected_replace_of_other_iff (coherent : Registry.Coherent calls registry)
    {reports : List Breakpoint} {path : String} {id : Int64} (other : path ≠ clientPath) :
    Expected (registry.replace clientPath runtimePath source asked modified).1
        (exchanges ++ [(.replace clientPath runtimePath source asked modified, reports)]) path id ↔
      Expected registry exchanges path id := by
  have stored := Registry.get?_replace registry clientPath runtimePath source asked modified
    coherent.key_below
  have silent : replaced? path (.replace clientPath runtimePath source asked modified, reports) =
      none := if_neg (Ne.symm other)
  rw [Expected, Expected, lastReplaced_concat, silent, Option.none_or]
  split
  · exact Iff.rfl
  · constructor
    · rintro ⟨key, breakpoint, found, ofPath, same⟩
      rcases (stored key breakpoint).mp found with ⟨_, _, member⟩ | ⟨old, _⟩
      · exact absurd (ofPath.symm.trans (Registry.mem_create member).2.2.1) other
      · exact ⟨key, breakpoint, old, ofPath, same⟩
    · rintro ⟨key, breakpoint, found, ofPath, same⟩
      have different : breakpoint.clientPath ≠ clientPath := ofPath ▸ other
      exact ⟨key, breakpoint, (stored key breakpoint).mpr (Or.inr ⟨found, different⟩), ofPath, same⟩

theorem Follows.replace (follows : Follows exchanges registry replica)
    (coherent : Registry.Coherent calls registry)
    (few : registry.nextId + asked.length ≤ 2 ^ 63) :
    Follows
      (exchanges ++ [(.replace clientPath runtimePath source asked modified,
        (registry.replace clientPath runtimePath source asked modified).2)])
      (registry.replace clientPath runtimePath source asked modified).1
      (replica.renew clientPath
        (registry.replace clientPath runtimePath source asked modified).2) := by
  have stored := Registry.get?_replace registry clientPath runtimePath source asked modified
    coherent.key_below
  have fresh : replica.Fresh (registry.replace clientPath runtimePath source asked modified).2 :=
    follows.fresh few
  constructor
  · intro key breakpoint found
    rcases (stored key breakpoint).mp found with ⟨unmodified, _, member⟩ | ⟨old, different⟩
    · exact (store_replace _ few member).trans (by rw [unmodified]; rfl)
    · have owned := follows.owned key breakpoint old
      have remembered : Int64.ofNat breakpoint.id ∉ replica.reported clientPath :=
        fun shared => different (follows.apart _ _ _ owned shared)
      rw [fresh.held_renew owned, if_neg remembered]
      exact follows.held key breakpoint old
  · intro key breakpoint found
    rw [mem_reported_renew_iff]
    rcases (stored key breakpoint).mp found with ⟨_, _, member⟩ | ⟨old, _⟩
    · exact Or.inr ⟨(Registry.mem_create member).2.2.1,
        mem_reported_ids_iff_created.mpr ⟨breakpoint, member, rfl⟩⟩
    · exact Or.inl (follows.owned key breakpoint old)
  · intro path id member
    rw [Registry.nextId_replace]
    rcases mem_reported_renew_iff.mp member with old | ⟨_, new⟩
    · obtain ⟨number, below, same⟩ := follows.given path id old
      exact ⟨number, by omega, same⟩
    · obtain ⟨number, _, below, same⟩ := mem_reported_ids_iff.mp new
      exact ⟨number, below, same⟩
  · -- A number reported just now was not reported before, for any path.
    intro path other id member otherMember
    rcases mem_reported_renew_iff.mp member with old | ⟨here, new⟩
    · rcases mem_reported_renew_iff.mp otherMember with otherOld | ⟨_, new⟩
      · exact follows.apart path other id old otherOld
      · exact absurd new (fresh path id old)
    · rcases mem_reported_renew_iff.mp otherMember with otherOld | ⟨otherHere, _⟩
      · exact absurd new (fresh other id otherOld)
      · exact here.trans otherHere.symm
  · intro path id
    by_cases here : path = clientPath
    · subst here
      rw [fresh.holds_renewed_iff, expected_replaced_iff coherent]
    · have remembered : id ∈ replica.reported path → id ∉ replica.reported clientPath :=
        fun old shared => here (follows.apart path clientPath id old shared)
      rw [fresh.holds_renew_of_other_iff here remembered, follows.holds,
        expected_replace_of_other_iff coherent here]

end Replace

theorem follows_trace (calls : List Call) (few : allocated calls < 2 ^ 63) :
    Follows (trace {} calls) (run {} calls) (ofTrace (trace {} calls)) := by
  induction calls using List.reverseRecOn with
  | nil => exact follows_fresh
  | append_singleton calls call ih =>
      rw [Registry.allocated_concat] at few
      have coherent := Registry.coherent_run calls
      have next := coherent.nextId
      have follows := ih (by omega)
      rw [Registry.run_concat, Registry.trace_concat, ofTrace_concat]
      cases call with
      | register path line kind => exact follows.register coherent (by omega)
      | replace clientPath runtimePath source asked modified =>
          simp only [Call.asks] at few
          exact follows.replace coherent (by omega)
      | lookup path line =>
          constructor
          · exact follows.held
          · exact follows.owned
          · exact follows.given
          · exact follows.apart
          · intro asked id
            have same := follows.holds asked id
            rw [Expected] at same ⊢
            rw [lastReplaced_concat]
            exact same

/--
A line that the run tells of is answered with the breakpoints whose reports it changes, in the order
of their numbers. While numbers fit their type, a client that follows what it is told holds the
report of every breakpoint that is kept, and for each path the numbers that it should.
-/
theorem replica_current (calls : List Call) :
    (∀ path line kind,
      let after := ((run {} calls).register path line kind).1
      ((run {} calls).register path line kind).2 = Registry.changedReports (run {} calls) after ∧
      after.breakpoints.values.map (·.id) = (run {} calls).breakpoints.values.map (·.id) ∧
      after.breakpoints.values.Pairwise (fun earlier later => earlier.id < later.id)) ∧
    (allocated calls < 2 ^ 63 →
      (∀ key breakpoint, (run {} calls).breakpoints.get? key = some breakpoint →
        (ofTrace (trace {} calls)).held (Int64.ofNat breakpoint.id) = some breakpoint.report) ∧
      (∀ path id, (ofTrace (trace {} calls)).Holds path id ↔
        Expected (run {} calls) (trace {} calls) path id) ∧
      (∀ path line kind,
        let after := ((run {} calls).register path line kind).1
        let reports := ((run {} calls).register path line kind).2
        (reports.filterMap (·.id)).Pairwise (· < ·) ∧
        (∀ report ∈ reports, ∃ key breakpoint, after.breakpoints.get? key = some breakpoint ∧
          report = breakpoint.report) ∧
        (∀ key before, (run {} calls).breakpoints.get? key = some before →
          ∃ breakpoint, after.breakpoints.get? key = some breakpoint ∧
            (Int64.ofNat before.id ∈ reports.filterMap (·.id) ↔
              breakpoint.report ≠ before.report)))) := by
  have coherent := Registry.coherent_run calls
  constructor
  · intro path line kind
    refine ⟨coherent.reports_eq_changed path line kind, ?_, ?_⟩
    · exact Registry.ids_register (run {} calls) path line kind
    · exact (coherent.register path line kind).values_ascending
  · intro few
    have follows := follows_trace calls few
    have fits : (run {} calls).nextId ≤ 2 ^ 63 := by
      rw [coherent.nextId]
      omega
    refine ⟨follows.held, follows.holds, ?_⟩
    intro path line kind
    refine ⟨coherent.ids_ascending fits path line kind, ?_, ?_⟩
    · intro report member
      obtain ⟨key, before, found, _, same⟩ := Registry.mem_reports_register.mp member
      exact ⟨key, _, by rw [Registry.get?_register, found, Option.map_some], same⟩
    · intro key before found
      exact ⟨_, by rw [Registry.get?_register, found, Option.map_some],
        coherent.id_mem_reports_iff fits found path line kind⟩

theorem replica_current_once_loaded :
    let calls : List Call := [.replace "one" "file" {} [{ line := 9 }] false,
      .register "file" 3 .start]
    allocated calls < 2 ^ 63 ∧
      (ofTrace (trace {} calls)).held 1 = some
        { id := some 1, verified := true, source := some {}, line := some 3, endLine := some 3 } :=
  ⟨by decide, ((replica_current _).2 (by decide)).1 1
    { id := 1, source := {}, asked := { line := 9 }, clientPath := "one", runtimePath := "file",
      resolution := some ⟨true, 3, 4⟩ } (by decide)⟩

end Debuggee.Replica
