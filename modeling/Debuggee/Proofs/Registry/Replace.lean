import Debuggee.Proofs.Registry.Coherence

/-!
Replacing the breakpoints of one path of the client. The new ones come behind all others, as their
numbers are the highest, and nothing is changed but the breakpoints of that path. So calls for
different paths may change places, and a call may be made again; only numbers tell the difference.
-/

namespace Debuggee

namespace NumberMap

variable {α : Type}

theorem put_beyond {key : Nat} (value : α) {entries : List (Nat × α)}
    (below : ∀ entry ∈ entries, entry.1 < key) :
    put key value entries = entries ++ [(key, value)] := by
  induction entries with
  | nil => rfl
  | cons entry entries ih =>
      have first := below entry (by simp)
      rw [put, if_neg (by omega), if_neg (by omega),
        ih fun other member => below other (List.mem_cons_of_mem entry member), List.cons_append]

theorem values_set_beyond {map : NumberMap α} {key : Nat} (value : α)
    (below : ∀ other found, map.get? other = some found → other < key) :
    (map.set key value).values = map.values ++ [value] := by
  have entries : (map.set key value).entries = map.entries ++ [(key, value)] :=
    put_beyond value fun entry member => below entry.1 entry.2 (get?_eq_some_iff.mpr member)
  simp [values, entries]

theorem values_filterValues (keep : α → Bool) (map : NumberMap α) :
    (map.filterValues keep).values = map.values.filter keep := by
  simp [values, filterValues, List.filter_map, Function.comp_def]

end NumberMap

def LineBreakpoint.renumber (number : Nat → Nat) (breakpoint : LineBreakpoint) : LineBreakpoint :=
  { breakpoint with id := number breakpoint.id }

def Breakpoint.unnumbered (report : Breakpoint) : Breakpoint :=
  { report with id := none }

theorem LineBreakpoint.unnumbered_report (number : Nat → Nat) (breakpoint : LineBreakpoint) :
    (breakpoint.renumber number).report.unnumbered = breakpoint.report.unnumbered := by
  unfold LineBreakpoint.report LineBreakpoint.renumber Breakpoint.unnumbered
  cases breakpoint.resolution <;> rfl

namespace Registry

theorem values_keep (breakpoints : NumberMap LineBreakpoint) {created : List LineBreakpoint}
    (ascending : created.Pairwise fun earlier later => earlier.id < later.id)
    (below : ∀ key found, breakpoints.get? key = some found →
      ∀ breakpoint ∈ created, key < breakpoint.id) :
    (keep breakpoints created).values = breakpoints.values ++ created := by
  induction created generalizing breakpoints with
  | nil => simp [keep]
  | cons first created ih =>
      obtain ⟨least, later⟩ := List.pairwise_cons.mp ascending
      have step : keep breakpoints (first :: created) =
          keep (breakpoints.set first.id first) created := rfl
      have stillBelow : ∀ key found, (breakpoints.set first.id first).get? key = some found →
          ∀ breakpoint ∈ created, key < breakpoint.id := by
        intro key found stored breakpoint member
        rw [NumberMap.get?_set] at stored
        split at stored
        · rename_i here
          exact here ▸ least breakpoint member
        · exact below key found stored breakpoint (List.mem_cons_of_mem first member)
      rw [step, ih _ later stillBelow,
        NumberMap.values_set_beyond first fun key found stored =>
          below key found stored first (by simp), List.append_assoc, List.singleton_append]

theorem map_renumber_create (clientPath runtimePath : String) (source : Source)
    (table : Option LineTable) (number : Nat → Nat) {id other : Nat}
    {asked : List SourceBreakpoint}
    (shifted : ∀ index < asked.length, number (id + index) = other + index) :
    (create clientPath runtimePath source table id asked).map (·.renumber number) =
      create clientPath runtimePath source table other asked := by
  induction asked generalizing id other with
  | nil => rfl
  | cons request asked ih =>
      have first := shifted 0 (by simp)
      have later : ∀ index < asked.length, number (id + 1 + index) = other + 1 + index := by
        intro index below
        have next := shifted (index + 1) (by simpa using below)
        rw [Nat.add_assoc, Nat.add_assoc, Nat.add_comm 1 index, next]
      simp only [create, List.map_cons, ih later]
      rw [Nat.add_zero, Nat.add_zero] at first
      simp [LineBreakpoint.renumber, first]

theorem requests_create (clientPath runtimePath : String) (source : Source)
    (table : Option LineTable) (id : Nat) (asked : List SourceBreakpoint) :
    (create clientPath runtimePath source table id asked).map
        (fun breakpoint => (breakpoint.asked, breakpoint.source, breakpoint.runtimePath)) =
      asked.map fun request => (request, source, runtimePath) := by
  induction asked generalizing id with
  | nil => rfl
  | cons request asked ih => simp [create, ih]

def ofClient (registry : Registry) (clientPath : String) : List LineBreakpoint :=
  registry.breakpoints.values.filter (·.clientPath = clientPath)

def added (registry : Registry) (clientPath runtimePath : String) (source : Source)
    (asked : List SourceBreakpoint) (modified : Bool) : List LineBreakpoint :=
  if modified then [] else registry.created clientPath runtimePath source asked

theorem filter_added (keep : String → Bool) (registry : Registry)
    (clientPath runtimePath : String) (source : Source) (asked : List SourceBreakpoint)
    (modified : Bool) :
    (registry.added clientPath runtimePath source asked modified).filter
        (fun breakpoint => keep breakpoint.clientPath) =
      if keep clientPath then registry.added clientPath runtimePath source asked modified
      else [] := by
  have same : ∀ breakpoint ∈ registry.added clientPath runtimePath source asked modified,
      breakpoint.clientPath = clientPath := by
    intro breakpoint member
    cases modified with
    | true => simp [added] at member
    | false => exact (mem_create member).2.2.1
  split
  · rename_i kept
    rw [List.filter_eq_self]
    intro breakpoint member
    rwa [same breakpoint member]
  · rename_i dropped
    rw [List.filter_eq_nil_iff]
    intro breakpoint member
    rwa [same breakpoint member]

section Replace

variable {calls : List Call} {registry : Registry} (coherent : Coherent calls registry)
variable (clientPath runtimePath : String) (source : Source) (asked : List SourceBreakpoint)
variable (modified : Bool)

include coherent in
/-- All that a replacing call does to the breakpoints that are kept. -/
theorem Coherent.values_replace :
    (registry.replace clientPath runtimePath source asked modified).1.breakpoints.values =
      registry.breakpoints.values.filter (·.clientPath ≠ clientPath) ++
        registry.added clientPath runtimePath source asked modified := by
  cases modified with
  | true =>
      rw [added, if_pos rfl, List.append_nil]
      exact NumberMap.values_filterValues _ registry.breakpoints
  | false =>
      have ascending : (registry.created clientPath runtimePath source asked).Pairwise
          fun earlier later => earlier.id < later.id := by
        rw [← List.pairwise_map (R := fun earlier later : Nat => earlier < later), created_ids]
        exact List.pairwise_lt_range'
      refine (values_keep _ ascending ?_).trans ?_
      · intro key found stored breakpoint member
        have old := (NumberMap.get?_filterValues_eq_some_iff.mp stored).1
        have bound := coherent.key_below key found old
        have least := (mem_create member).1
        omega
      · rw [NumberMap.values_filterValues]
        rfl

theorem tables_replace :
    (registry.replace clientPath runtimePath source asked modified).1.tables = registry.tables := by
  cases modified <;> rfl

theorem ids_replace :
    (registry.replace clientPath runtimePath source asked modified).2.map (·.id) =
      (List.range' registry.nextId asked.length).map fun id => some (Int64.ofNat id) := by
  rw [reports_replace, ← registry.created_ids clientPath runtimePath source asked, List.map_map,
    List.map_map]
  apply List.map_congr_left
  intro breakpoint _
  cases modified with
  | true => rfl
  | false => exact breakpoint.report_id

include coherent in
theorem Coherent.ofClient_replace :
    (registry.replace clientPath runtimePath source asked modified).1.ofClient clientPath =
      registry.added clientPath runtimePath source asked modified := by
  have others : (registry.breakpoints.values.filter (·.clientPath ≠ clientPath)).filter
      (·.clientPath = clientPath) = [] := by
    rw [List.filter_filter, List.filter_eq_nil_iff]
    intro breakpoint _
    simp
  rw [ofClient, coherent.values_replace, List.filter_append, others,
    filter_added (· = clientPath), if_pos (by simp), List.nil_append]

end Replace

structure Renumbered (number : Equiv.Perm Nat) (registry other : Registry) : Prop where
  tables : other.tables = registry.tables
  breakpoints : ∀ id, other.breakpoints.get? (number id) =
    (registry.breakpoints.get? id).map (·.renumber number)

section Renumber

variable {calls otherCalls : List Call} {registry other : Registry}
variable (coherent : Coherent calls registry)

include coherent in
theorem Coherent.get?_eq_some_iff {id : Nat} {breakpoint : LineBreakpoint} :
    registry.breakpoints.get? id = some breakpoint ↔
      breakpoint ∈ registry.breakpoints.values ∧ breakpoint.id = id := by
  rw [NumberMap.mem_values_iff]
  constructor
  · intro found
    exact ⟨⟨id, found⟩, (coherent.kept id breakpoint found).key_eq.symm⟩
  · rintro ⟨⟨key, found⟩, rfl⟩
    rwa [← (coherent.kept key breakpoint found).key_eq]

include coherent in
theorem Coherent.renumbered_of_perm (otherCoherent : Coherent otherCalls other)
    {number : Equiv.Perm Nat} (tables : other.tables = registry.tables)
    (perm : other.breakpoints.values.Perm
      (registry.breakpoints.values.map (·.renumber number))) :
    Renumbered number registry other := by
  refine ⟨tables, fun id => Option.ext fun breakpoint => ?_⟩
  rw [otherCoherent.get?_eq_some_iff, perm.mem_iff, List.mem_map, Option.map_eq_some_iff]
  constructor
  · rintro ⟨⟨before, member, rfl⟩, same⟩
    exact ⟨before, coherent.get?_eq_some_iff.mpr ⟨member, number.injective same⟩, rfl⟩
  · rintro ⟨before, found, rfl⟩
    obtain ⟨member, rfl⟩ := coherent.get?_eq_some_iff.mp found
    exact ⟨⟨before, member, rfl⟩, rfl⟩

def exchange (start first second : Nat) : Equiv.Perm Nat where
  toFun id := if id < start then id else if id < start + first then id + second
    else if id < start + first + second then id - first else id
  invFun id := if id < start then id else if id < start + second then id + first
    else if id < start + second + first then id - second else id
  left_inv id := by
    dsimp only
    split_ifs <;> omega
  right_inv id := by
    dsimp only
    split_ifs <;> omega

theorem exists_exchange (start first second : Nat) :
    ∃ number : Equiv.Perm Nat, (∀ id < start, number id = id) ∧
      (∀ index < first, number (start + index) = start + second + index) ∧
      ∀ index < second, number (start + first + index) = start + index := by
  refine ⟨exchange start first second, fun id below => if_pos below, ?_, ?_⟩
  · intro index below
    simp only [exchange, Equiv.coe_fn_mk]
    rw [if_neg (by omega), if_pos (by omega)]
    omega
  · intro index below
    simp only [exchange, Equiv.coe_fn_mk]
    rw [if_neg (by omega), if_neg (by omega), if_pos (by omega)]
    omega

include coherent in
theorem Coherent.map_renumber_filter {number : Equiv.Perm Nat}
    (fixed : ∀ id < registry.nextId, number id = id) (keep : LineBreakpoint → Bool) :
    (registry.breakpoints.values.filter keep).map (·.renumber number) =
      registry.breakpoints.values.filter keep := by
  refine (List.map_congr_left ?_).trans (List.map_id _)
  intro breakpoint member
  obtain ⟨key, found⟩ := NumberMap.mem_values_iff.mp (List.mem_of_mem_filter member)
  have same := fixed breakpoint.id (coherent.kept key breakpoint found).below
  rw [LineBreakpoint.renumber, same]
  rfl

end Renumber

section Twice

variable {calls : List Call} {registry other : Registry} (coherent : Coherent calls registry)
variable (clientPath runtimePath : String) (source : Source) {asked : List SourceBreakpoint}
variable (modified : Bool) {number : Nat → Nat}

theorem map_renumber_created (same : other.table? runtimePath = registry.table? runtimePath)
    (shifted : ∀ index < asked.length,
      number (registry.nextId + index) = other.nextId + index) :
    (registry.created clientPath runtimePath source asked).map (·.renumber number) =
      other.created clientPath runtimePath source asked := by
  rw [created, created, same]
  exact map_renumber_create clientPath runtimePath source _ number shifted

theorem map_renumber_added (same : other.table? runtimePath = registry.table? runtimePath)
    (shifted : ∀ index < asked.length,
      number (registry.nextId + index) = other.nextId + index) :
    (registry.added clientPath runtimePath source asked modified).map (·.renumber number) =
      other.added clientPath runtimePath source asked modified := by
  cases modified with
  | true => rfl
  | false => exact map_renumber_created clientPath runtimePath source same shifted

theorem unnumbered_replace (same : other.table? runtimePath = registry.table? runtimePath) :
    (other.replace clientPath runtimePath source asked modified).2.map (·.unnumbered) =
      (registry.replace clientPath runtimePath source asked modified).2.map (·.unnumbered) := by
  let number : Nat → Nat := fun id => id - registry.nextId + other.nextId
  have shifted : ∀ index < asked.length,
      number (registry.nextId + index) = other.nextId + index := by
    intro index _
    simp only [number]
    omega
  rw [reports_replace, reports_replace,
    ← map_renumber_created clientPath runtimePath source same shifted, List.map_map, List.map_map,
    List.map_map]
  apply List.map_congr_left
  intro breakpoint _
  cases modified with
  | true => rfl
  | false => exact breakpoint.unnumbered_report number

include coherent in
theorem Coherent.filter_replace_of_other {otherPath : String} (different : otherPath ≠ clientPath) :
    (registry.replace clientPath runtimePath source asked modified).1.breakpoints.values.filter
        (·.clientPath ≠ otherPath) =
      registry.breakpoints.values.filter
          (fun breakpoint => breakpoint.clientPath ≠ otherPath && breakpoint.clientPath ≠ clientPath) ++
        registry.added clientPath runtimePath source asked modified := by
  rw [coherent.values_replace, List.filter_append, List.filter_filter,
    filter_added (· ≠ otherPath), if_pos (decide_eq_true (Ne.symm different))]

include coherent in
/-- Calls for different paths may change places; the blocks of their numbers do so too. -/
theorem Coherent.replace_comm {otherPath : String} (otherRuntime : String) (otherSource : Source)
    (otherAsked : List SourceBreakpoint) (otherModified : Bool)
    (different : otherPath ≠ clientPath) :
    ∃ number : Equiv.Perm Nat, (∀ id < registry.nextId, number id = id) ∧
      Renumbered number
        ((registry.replace clientPath runtimePath source asked modified).1.replace otherPath
          otherRuntime otherSource otherAsked otherModified).1
        ((registry.replace otherPath otherRuntime otherSource otherAsked otherModified).1.replace
          clientPath runtimePath source asked modified).1 := by
  obtain ⟨number, fixed, forward, back⟩ :=
    exists_exchange registry.nextId asked.length otherAsked.length
  have here := coherent.replace clientPath runtimePath source asked modified
  have there := coherent.replace otherPath otherRuntime otherSource otherAsked otherModified
  refine ⟨number, fixed, (here.replace _ _ _ _ _).renumbered_of_perm (there.replace _ _ _ _ _) ?_ ?_⟩
  · simp only [tables_replace]
  · have own := map_renumber_added clientPath runtimePath source modified
      (table?_replace registry otherPath otherRuntime otherSource otherAsked otherModified _)
      (by rwa [nextId_replace])
    have others := map_renumber_added otherPath otherRuntime otherSource otherModified
      (table?_replace registry clientPath runtimePath source asked modified _).symm
      (by rwa [nextId_replace])
    rw [here.values_replace, there.values_replace, coherent.filter_replace_of_other _ _ _ _ different,
      coherent.filter_replace_of_other _ _ _ _ (Ne.symm different), List.map_append,
      List.map_append, coherent.map_renumber_filter fixed, own, others]
    have swapped : ∀ breakpoint : LineBreakpoint,
        (decide (breakpoint.clientPath ≠ clientPath) &&
          decide (breakpoint.clientPath ≠ otherPath)) =
        (decide (breakpoint.clientPath ≠ otherPath) &&
          decide (breakpoint.clientPath ≠ clientPath)) :=
      fun breakpoint => Bool.and_comm _ _
    simp only [swapped, List.append_assoc]
    exact List.perm_append_comm.append_left _

include coherent in
/-- A call made again leaves the same breakpoints under new numbers. -/
theorem Coherent.replace_again :
    ∃ number : Equiv.Perm Nat, (∀ id < registry.nextId, number id = id) ∧
      Renumbered number (registry.replace clientPath runtimePath source asked modified).1
        ((registry.replace clientPath runtimePath source asked modified).1.replace clientPath
          runtimePath source asked modified).1 := by
  obtain ⟨number, fixed, forward, _⟩ := exists_exchange registry.nextId asked.length asked.length
  have once := coherent.replace clientPath runtimePath source asked modified
  refine ⟨number, fixed, once.renumbered_of_perm (once.replace _ _ _ _ _) ?_ ?_⟩
  · simp only [tables_replace]
  · have own := map_renumber_added clientPath runtimePath source modified
      (table?_replace registry clientPath runtimePath source asked modified _)
      (by rwa [nextId_replace])
    have others : (registry.replace clientPath runtimePath source asked
        modified).1.breakpoints.values.filter (·.clientPath ≠ clientPath) =
          registry.breakpoints.values.filter (·.clientPath ≠ clientPath) := by
      rw [coherent.values_replace, List.filter_append, filter_added (· ≠ clientPath),
        if_neg (by simp), List.append_nil, List.filter_filter]
      simp only [Bool.and_self]
    rw [once.values_replace, others, coherent.values_replace, List.map_append,
      coherent.map_renumber_filter fixed, own]

end Twice

theorem givenIds_lt {calls : List Call} {count : Nat}
    (few : (run {} calls).nextId + count ≤ 2 ^ 63) {earlier later : Int64}
    (given : earlier ∈ givenIds (trace {} calls))
    (next : later ∈ (List.range' (run {} calls).nextId count).map Int64.ofNat) :
    earlier < later := by
  rw [givenIds_trace] at given
  obtain ⟨old, oldRange, rfl⟩ := List.mem_map.mp given
  obtain ⟨new, newRange, rfl⟩ := List.mem_map.mp next
  rw [List.mem_range'_1] at oldRange newRange
  have nextId := (coherent_run calls).nextId
  exact (Int64.ofNat_lt_iff_lt (by omega) (by omega)).mpr (by omega)

/--
A call answers each request in turn, under the numbers that follow the last one given out. It changes
the breakpoints of its path and nothing else: none is left of them if the source was modified, and
otherwise there is one for each request, as it is reported. Calls for two paths may change places,
and a call may be made again, with the same outcome but for numbers.
-/
theorem replace_only (calls : List Call) (clientPath runtimePath : String) (source : Source)
    (asked : List SourceBreakpoint) (modified : Bool) :
    let registry := run {} calls
    let replaced := registry.replace clientPath runtimePath source asked modified
    let own := replaced.1.ofClient clientPath
    let again := replaced.1.replace clientPath runtimePath source asked modified
    replaced.1.tables = registry.tables ∧
    (replaced.2.map (·.id) =
        (List.range' registry.nextId asked.length).map (fun id => some (Int64.ofNat id)) ∧
      givenIds (trace {} calls) = (List.range' 1 (registry.nextId - 1)).map Int64.ofNat ∧
      (registry.nextId + asked.length ≤ 2 ^ 63 → ∀ earlier ∈ givenIds (trace {} calls),
        ∀ later ∈ replaced.2.filterMap (·.id), earlier < later)) ∧
    (∀ id breakpoint, breakpoint.clientPath ≠ clientPath →
      (replaced.1.breakpoints.get? id = some breakpoint ↔
        registry.breakpoints.get? id = some breakpoint)) ∧
    (if modified then
      own = [] ∧ replaced.2 =
        (List.range' registry.nextId asked.length).map fun id => modifiedReport id source
    else
      own.map (fun breakpoint => (breakpoint.asked, breakpoint.source, breakpoint.runtimePath)) =
          asked.map (fun request => (request, source, runtimePath)) ∧
        own.map (·.id) = List.range' registry.nextId asked.length ∧
        replaced.2 = own.map (·.report)) ∧
    (∀ otherPath otherRuntime otherSource otherAsked otherModified, otherPath ≠ clientPath →
      let there := registry.replace otherPath otherRuntime otherSource otherAsked otherModified
      let both := replaced.1.replace otherPath otherRuntime otherSource otherAsked otherModified
      let swapped := there.1.replace clientPath runtimePath source asked modified
      swapped.1.nextId = both.1.nextId ∧
        swapped.2.map (·.unnumbered) = replaced.2.map (·.unnumbered) ∧
        both.2.map (·.unnumbered) = there.2.map (·.unnumbered) ∧
        ∃ number : Equiv.Perm Nat, (∀ id < registry.nextId, number id = id) ∧
          Renumbered number both.1 swapped.1) ∧
    again.2.map (·.unnumbered) = replaced.2.map (·.unnumbered) ∧
    ∃ number : Equiv.Perm Nat, (∀ id < registry.nextId, number id = id) ∧
      Renumbered number replaced.1 again.1 := by
  intro registry replaced own again
  have coherent := coherent_run calls
  refine ⟨tables_replace .., ⟨ids_replace .., ?_, ?_⟩, ?_, ?_, ?_, ?_, ?_⟩
  · rw [givenIds_trace, coherent.nextId, Nat.add_sub_cancel_left]
  · intro few earlier given later next
    refine givenIds_lt few given ?_
    rw [← reported_ids]
    exact next
  · intro id breakpoint other
    refine (get?_replace registry clientPath runtimePath source asked modified
      coherent.key_below id breakpoint).trans ⟨?_, fun old => Or.inr ⟨old, other⟩⟩
    rintro (⟨_, _, member⟩ | ⟨old, _⟩)
    · exact absurd (mem_create member).2.2.1 other
    · exact old
  · have kept : own = registry.added clientPath runtimePath source asked modified :=
      coherent.ofClient_replace clientPath runtimePath source asked modified
    simp only [kept, replaced, reports_replace]
    cases modified with
    | true =>
        rw [if_pos rfl, ← registry.created_ids clientPath runtimePath source asked, List.map_map]
        exact ⟨rfl, rfl⟩
    | false =>
        exact ⟨requests_create clientPath runtimePath source _ _ asked,
          registry.created_ids clientPath runtimePath source asked, rfl⟩
  · intro otherPath otherRuntime otherSource otherAsked otherModified different
    refine ⟨?_, ?_, ?_, coherent.replace_comm clientPath runtimePath source modified otherRuntime
      otherSource otherAsked otherModified different⟩
    · simp only [replaced, nextId_replace]
      omega
    · exact unnumbered_replace clientPath runtimePath source modified (table?_replace ..)
    · exact unnumbered_replace otherPath otherRuntime otherSource otherModified (table?_replace ..)
  · exact unnumbered_replace clientPath runtimePath source modified (table?_replace ..)
  · exact coherent.replace_again clientPath runtimePath source modified

def twoClients : List Call :=
  [.register "play" 3 .start, .replace "a" "play" {} [{ line := 9 }] false,
    .replace "b" "play" {} [{ line := 1 }] false]

theorem replace_only_of_two_clients :
    let registry := run {} twoClients
    let replaced := registry.replace "a" "play" {} [{ line := 4 }, { line := 2 }] false
    let kept : LineBreakpoint := ⟨2, {}, { line := 1 }, "b", "play", some ⟨false, 0, 3⟩⟩
    replaced.2.map (·.id) = [some 3, some 4] ∧
      (∀ earlier ∈ givenIds (trace {} twoClients), ∀ later ∈ replaced.2.filterMap (·.id),
        earlier < later) ∧
      replaced.1.breakpoints.get? 2 = some kept ∧
      ∃ number : Equiv.Perm Nat, Renumbered number
        (replaced.1.replace "b" "other" {} [{ line := 7 }] false).1
        ((registry.replace "b" "other" {} [{ line := 7 }] false).1.replace "a" "play" {}
          [{ line := 4 }, { line := 2 }] false).1 := by
  intro registry replaced kept
  obtain ⟨_, ⟨_, _, ascending⟩, others, _, commute, _⟩ :=
    replace_only twoClients "a" "play" {} [{ line := 4 }, { line := 2 }] false
  obtain ⟨_, _, _, number, _, renumbered⟩ := commute "b" "other" {} [{ line := 7 }] false (by decide)
  exact ⟨by decide, ascending (by decide), (others 2 kept (by decide)).mpr (by decide), number,
    renumbered⟩

end Registry

end Debuggee
