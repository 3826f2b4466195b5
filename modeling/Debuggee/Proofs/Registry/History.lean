import Debuggee.Proofs.LineTable.Range
import Debuggee.Registry

/-!
Histories of a registry: what it may be asked, in any order, and what each request does to its
tables, to its breakpoints and to the numbers it gives out.
-/

namespace Debuggee

namespace LineBreakpoint

theorem report_id (breakpoint : LineBreakpoint) :
    breakpoint.report.id = some (Int64.ofNat breakpoint.id) := by
  unfold report
  split <;> rfl

theorem refresh_of_path {path : String} (table : LineTable) {breakpoint : LineBreakpoint}
    (here : breakpoint.runtimePath = path) :
    breakpoint.refresh path table =
      { breakpoint with resolution := some (table.resolve breakpoint.asked.line) } :=
  if_pos here

theorem refresh_of_other {path : String} (table : LineTable) {breakpoint : LineBreakpoint}
    (other : breakpoint.runtimePath ≠ path) : breakpoint.refresh path table = breakpoint :=
  if_neg other

theorem refresh_eq (path : String) (table : LineTable) (breakpoint : LineBreakpoint) :
    breakpoint.refresh path table =
      { breakpoint with resolution := (breakpoint.refresh path table).resolution } := by
  unfold refresh
  split <;> rfl

@[simp]
theorem refresh_id (path : String) (table : LineTable) (breakpoint : LineBreakpoint) :
    (breakpoint.refresh path table).id = breakpoint.id := by
  rw [refresh_eq]

@[simp]
theorem refresh_clientPath (path : String) (table : LineTable) (breakpoint : LineBreakpoint) :
    (breakpoint.refresh path table).clientPath = breakpoint.clientPath := by
  rw [refresh_eq]

end LineBreakpoint

namespace Registry

inductive Call where
  | register (path : String) (line : Int64) (kind : LineKind)
  | replace (clientPath runtimePath : String) (source : Source) (asked : List SourceBreakpoint)
      (modified : Bool)
  | lookup (path : String) (line : Int64)

def perform (registry : Registry) : Call → Registry × List Breakpoint
  | .register path line kind => registry.register path line kind
  | .replace clientPath runtimePath source asked modified =>
    registry.replace clientPath runtimePath source asked modified
  | .lookup _ _ => (registry, [])

def run (registry : Registry) (calls : List Call) : Registry :=
  calls.foldl (fun registry call => (registry.perform call).1) registry

def trace (registry : Registry) : List Call → List (Call × List Breakpoint)
  | [] => []
  | call :: calls => (call, (registry.perform call).2) :: trace (registry.perform call).1 calls

theorem run_concat (registry : Registry) (calls : List Call) (call : Call) :
    registry.run (calls ++ [call]) = ((registry.run calls).perform call).1 := by
  simp [run, List.foldl_append]

theorem trace_concat (registry : Registry) (calls : List Call) (call : Call) :
    registry.trace (calls ++ [call]) =
      registry.trace calls ++ [(call, ((registry.run calls).perform call).2)] := by
  induction calls generalizing registry with
  | nil => rfl
  | cons first calls ih =>
      simp only [List.cons_append, trace, ih]
      rfl

def Call.told? (path : String) : Call → Option (Int64 × LineKind)
  | .register other line kind => if other = path then some (line, kind) else none
  | _ => none

def linesTold (calls : List Call) (path : String) : List (Int64 × LineKind) :=
  calls.filterMap (Call.told? path)

def tableAfter (calls : List Call) (path : String) : Option LineTable :=
  if (linesTold calls path).isEmpty then none else some (.ofLines (linesTold calls path))

def Call.asks : Call → Nat
  | .replace _ _ _ asked _ => asked.length
  | _ => 0

def allocated (calls : List Call) : Nat :=
  (calls.map Call.asks).sum

def givenIds (exchanges : List (Call × List Breakpoint)) : List Int64 :=
  exchanges.flatMap fun exchange =>
    match exchange with
    | (.replace .., reports) => reports.filterMap (·.id)
    | _ => []

theorem linesTold_concat (calls : List Call) (call : Call) (path : String) :
    linesTold (calls ++ [call]) path = linesTold calls path ++ (call.told? path).toList := by
  rw [linesTold, List.filterMap_append]
  cases told : call.told? path <;> simp [linesTold, told]

theorem linesTold_eq_nil_iff {calls : List Call} {path : String} :
    linesTold calls path = [] ↔ ∀ line kind, Call.register path line kind ∉ calls := by
  rw [linesTold, List.filterMap_eq_nil_iff]
  constructor
  · intro untold line kind member
    have missing := untold _ member
    simp [Call.told?] at missing
  · intro never call member
    cases call with
    | register other line kind =>
        have different : other ≠ path := by
          intro same
          subst same
          exact never line kind member
        simp [Call.told?, different]
    | replace => rfl
    | lookup => rfl

theorem tableAfter_eq_none_iff {calls : List Call} {path : String} :
    tableAfter calls path = none ↔ ∀ line kind, Call.register path line kind ∉ calls := by
  rw [← linesTold_eq_nil_iff, tableAfter]
  split
  · rename_i empty
    simpa using List.isEmpty_iff.mp empty
  · rename_i occupied
    simpa using mt List.isEmpty_iff.mpr occupied

theorem tableAfter_getD (calls : List Call) (path : String) :
    (tableAfter calls path).getD {} = .ofLines (linesTold calls path) := by
  rw [tableAfter]
  split
  · rename_i empty
    rw [List.isEmpty_iff.mp empty]
    rfl
  · rfl

theorem tableAfter_register (calls : List Call) (path : String) (line : Int64) (kind : LineKind)
    (query : String) :
    tableAfter (calls ++ [.register path line kind]) query =
      if query = path then some (((tableAfter calls path).getD {}).register line kind)
      else tableAfter calls query := by
  rw [tableAfter, linesTold_concat]
  by_cases same : query = path
  · subst same
    have grown := LineTable.ofLines_concat (linesTold calls query) (line, kind)
    rw [if_pos rfl, tableAfter_getD, ← grown]
    simp [Call.told?]
  · simp [Call.told?, Ne.symm same, same, tableAfter]

theorem tableAfter_of_told_none (calls : List Call) {call : Call} {path : String}
    (silent : call.told? path = none) :
    tableAfter (calls ++ [call]) path = tableAfter calls path := by
  simp [tableAfter, linesTold_concat, silent]

theorem valid_of_tableAfter {calls : List Call} {path : String} {table : LineTable}
    (found : tableAfter calls path = some table) : table.Valid := by
  rw [tableAfter] at found
  split at found
  · contradiction
  · rw [← Option.some.inj found]
    exact LineTable.valid_ofLines (linesTold calls path)

theorem lookup_setTable (path : String) (table : LineTable) (tables : List (String × LineTable))
    (query : String) :
    (setTable path table tables).lookup query =
      if query = path then some table else tables.lookup query := by
  induction tables with
  | nil => exact NumberMap.lookup_first (path, table) [] query
  | cons first tables ih =>
      obtain ⟨other, kept⟩ := first
      rw [setTable]
      split
      · rename_i here
        rw [NumberMap.lookup_first, NumberMap.lookup_first, here]
        split <;> rfl
      · rename_i different
        rw [NumberMap.lookup_first, NumberMap.lookup_first, ih]
        split
        · rename_i asked
          rw [if_neg fun same => different (asked.symm.trans same)]
        · rfl

def tableTold (registry : Registry) (path : String) (line : Int64) (kind : LineKind) : LineTable :=
  ((registry.table? path).getD {}).register line kind

theorem table?_register (registry : Registry) (path : String) (line : Int64) (kind : LineKind)
    (query : String) :
    (registry.register path line kind).1.table? query =
      if query = path then some (registry.tableTold path line kind) else registry.table? query :=
  lookup_setTable path _ registry.tables query

theorem get?_register (registry : Registry) (path : String) (line : Int64) (kind : LineKind)
    (id : Nat) :
    (registry.register path line kind).1.breakpoints.get? id =
      (registry.breakpoints.get? id).map (.refresh path (registry.tableTold path line kind)) :=
  NumberMap.get?_mapValues _ registry.breakpoints id

theorem create_ids (clientPath runtimePath : String) (source : Source) (table : Option LineTable)
    (id : Nat) (asked : List SourceBreakpoint) :
    (create clientPath runtimePath source table id asked).map (·.id) =
      List.range' id asked.length := by
  induction asked generalizing id with
  | nil => rfl
  | cons request asked ih => simp [create, List.range'_succ, ih]

theorem mem_create {clientPath runtimePath : String} {source : Source} {table : Option LineTable}
    {id : Nat} {asked : List SourceBreakpoint} {breakpoint : LineBreakpoint}
    (member : breakpoint ∈ create clientPath runtimePath source table id asked) :
    id ≤ breakpoint.id ∧ breakpoint.id < id + asked.length ∧
      breakpoint.clientPath = clientPath ∧ breakpoint.runtimePath = runtimePath ∧
      breakpoint.resolution = table.map fun table => table.resolve breakpoint.asked.line := by
  induction asked generalizing id with
  | nil => simp [create] at member
  | cons request asked ih =>
      simp only [create, List.mem_cons] at member
      rcases member with same | later
      · subst same
        simp
      · obtain ⟨least, below, rest⟩ := ih later
        simp only [List.length_cons]
        exact ⟨by omega, by omega, rest⟩

theorem get?_keep (breakpoints : NumberMap LineBreakpoint) {created : List LineBreakpoint}
    (distinct : (created.map (·.id)).Nodup) {id : Nat} {breakpoint : LineBreakpoint} :
    (keep breakpoints created).get? id = some breakpoint ↔
      (breakpoint ∈ created ∧ breakpoint.id = id) ∨
        (breakpoints.get? id = some breakpoint ∧ id ∉ created.map (·.id)) := by
  -- Later breakpoints have other numbers, so the first one is not overwritten.
  induction created generalizing breakpoints with
  | nil => simp [keep]
  | cons first created ih =>
      rw [List.map_cons, List.nodup_cons] at distinct
      have step : keep breakpoints (first :: created) =
          keep (breakpoints.set first.id first) created := rfl
      rw [step, ih _ distinct.2, NumberMap.get?_set, List.map_cons]
      by_cases here : id = first.id
      · subst here
        simp only [if_pos, Option.some.injEq, List.mem_cons, true_or, not_true, and_false,
          or_false]
        constructor
        · rintro (⟨later, same⟩ | ⟨same, _⟩)
          · exact ⟨Or.inr later, same⟩
          · exact ⟨Or.inl same.symm, congrArg _ same.symm⟩
        · rintro ⟨same | later, sameId⟩
          · exact Or.inr ⟨same.symm, distinct.1⟩
          · exact absurd (List.mem_map.mpr ⟨breakpoint, later, sameId⟩) distinct.1
      · simp only [List.mem_cons, here, false_or]
        constructor
        · rintro (⟨later, same⟩ | old)
          · exact Or.inl ⟨Or.inr later, same⟩
          · exact Or.inr old
        · rintro (⟨same | later, sameId⟩ | old)
          · subst same
            exact absurd sameId.symm here
          · exact Or.inl ⟨later, sameId⟩
          · exact Or.inr old

def created (registry : Registry) (clientPath runtimePath : String) (source : Source)
    (asked : List SourceBreakpoint) : List LineBreakpoint :=
  create clientPath runtimePath source (registry.table? runtimePath) registry.nextId asked

theorem created_ids (registry : Registry) (clientPath runtimePath : String) (source : Source)
    (asked : List SourceBreakpoint) :
    (registry.created clientPath runtimePath source asked).map (·.id) =
      List.range' registry.nextId asked.length :=
  create_ids clientPath runtimePath source (registry.table? runtimePath) registry.nextId asked

theorem created_ids_nodup (registry : Registry) (clientPath runtimePath : String)
    (source : Source) (asked : List SourceBreakpoint) :
    ((registry.created clientPath runtimePath source asked).map (·.id)).Nodup := by
  rw [created_ids]
  exact List.nodup_range'

theorem table?_replace (registry : Registry) (clientPath runtimePath : String) (source : Source)
    (asked : List SourceBreakpoint) (modified : Bool) (path : String) :
    (registry.replace clientPath runtimePath source asked modified).1.table? path =
      registry.table? path := by
  cases modified <;> rfl

theorem nextId_replace (registry : Registry) (clientPath runtimePath : String) (source : Source)
    (asked : List SourceBreakpoint) (modified : Bool) :
    (registry.replace clientPath runtimePath source asked modified).1.nextId =
      registry.nextId + asked.length := by
  cases modified <;> rfl

theorem reports_replace (registry : Registry) (clientPath runtimePath : String) (source : Source)
    (asked : List SourceBreakpoint) (modified : Bool) :
    (registry.replace clientPath runtimePath source asked modified).2 =
      (registry.created clientPath runtimePath source asked).map fun breakpoint =>
        if modified then modifiedReport breakpoint.id source else breakpoint.report := by
  cases modified <;> rfl

theorem get?_replace (registry : Registry) (clientPath runtimePath : String) (source : Source)
    (asked : List SourceBreakpoint) (modified : Bool)
    (below : ∀ id breakpoint, registry.breakpoints.get? id = some breakpoint →
      id < registry.nextId) (id : Nat) (breakpoint : LineBreakpoint) :
    (registry.replace clientPath runtimePath source asked modified).1.breakpoints.get? id =
        some breakpoint ↔
      (modified = false ∧ breakpoint.id = id ∧
          breakpoint ∈ registry.created clientPath runtimePath source asked) ∨
        (registry.breakpoints.get? id = some breakpoint ∧
          breakpoint.clientPath ≠ clientPath) := by
  have kept : (registry.breakpoints.filterValues fun breakpoint =>
        breakpoint.clientPath ≠ clientPath).get? id = some breakpoint ↔
      registry.breakpoints.get? id = some breakpoint ∧ breakpoint.clientPath ≠ clientPath := by
    rw [NumberMap.get?_filterValues_eq_some_iff, decide_eq_true_eq]
  cases modified with
  | true => simpa [replace] using kept
  | false =>
      have distinct := registry.created_ids_nodup clientPath runtimePath source asked
      have fresh : registry.breakpoints.get? id = some breakpoint →
          id ∉ (registry.created clientPath runtimePath source asked).map (·.id) := by
        intro old member
        rw [created_ids, List.mem_range'_1] at member
        have bound := below id breakpoint old
        omega
      have whole : (registry.replace clientPath runtimePath source asked false).1.breakpoints =
          keep (registry.breakpoints.filterValues fun breakpoint =>
            breakpoint.clientPath ≠ clientPath)
            (registry.created clientPath runtimePath source asked) := rfl
      rw [whole, get?_keep _ distinct, kept]
      constructor
      · rintro (⟨member, same⟩ | ⟨old, _⟩)
        · exact Or.inl ⟨rfl, same, member⟩
        · exact Or.inr old
      · rintro (⟨_, same, member⟩ | old)
        · exact Or.inl ⟨member, same⟩
        · exact Or.inr ⟨old, fresh old.1⟩

end Registry

end Debuggee
