import Debuggee.Proofs.Registry.History

/-!
The breakpoints as a client holds them. It sees only the answers to replacing calls and the changes
that the run brings about, never the registry.
-/

namespace Debuggee

open Registry (Call)

structure Replica where
  held : Int64 → Option Breakpoint := fun _ => none
  reported : String → List Int64 := fun _ => []

namespace Replica

def store (held : Int64 → Option Breakpoint) (reports : List Breakpoint) :
    Int64 → Option Breakpoint :=
  reports.foldl (fun held report id => if report.id = some id then some report else held id) held

def update (replica : Replica) (reports : List Breakpoint) : Replica :=
  { replica with held := store replica.held reports }

def renew (replica : Replica) (clientPath : String) (reports : List Breakpoint) : Replica where
  held := store (fun id => if id ∈ replica.reported clientPath then none else replica.held id)
    reports
  reported := fun path =>
    if path = clientPath then replica.reported path ++ reports.filterMap (·.id)
    else replica.reported path

def follow (replica : Replica) : Call × List Breakpoint → Replica
  | (.register .., reports) => replica.update reports
  | (.replace clientPath .., reports) => replica.renew clientPath reports
  | (.lookup .., _) => replica

def ofTrace (exchanges : List (Call × List Breakpoint)) : Replica :=
  exchanges.foldl follow {}

def Holds (replica : Replica) (path : String) (id : Int64) : Prop :=
  id ∈ replica.reported path ∧ replica.held id ≠ none

def replaced? (path : String) : Call × List Breakpoint → Option (Bool × List Breakpoint)
  | (.replace clientPath _ _ _ modified, reports) =>
    if clientPath = path then some (modified, reports) else none
  | _ => none

def lastReplaced (exchanges : List (Call × List Breakpoint)) (path : String) :
    Option (Bool × List Breakpoint) :=
  exchanges.reverse.findSome? (replaced? path)

/--
The numbers that a client should hold for a path: those of the breakpoints kept for it, or those
reported by the last replacing call if that found the source modified.
-/
def Expected (registry : Registry) (exchanges : List (Call × List Breakpoint)) (path : String)
    (id : Int64) : Prop :=
  match lastReplaced exchanges path with
  | some (true, reports) => id ∈ reports.filterMap (·.id)
  | _ => ∃ key breakpoint, registry.breakpoints.get? key = some breakpoint ∧
      breakpoint.clientPath = path ∧ id = Int64.ofNat breakpoint.id

theorem store_of_absent (held : Int64 → Option Breakpoint) {reports : List Breakpoint} {id : Int64}
    (absent : id ∉ reports.filterMap (·.id)) : store held reports id = held id := by
  induction reports generalizing held with
  | nil => rfl
  | cons report reports ih =>
      have step : store held (report :: reports) id =
          store (fun id => if report.id = some id then some report else held id) reports id := rfl
      have other : report.id ≠ some id :=
        fun named => absent (List.mem_filterMap.mpr ⟨report, by simp, named⟩)
      have later : id ∉ reports.filterMap (·.id) := by
        intro member
        obtain ⟨told, belongs, named⟩ := List.mem_filterMap.mp member
        exact absent (List.mem_filterMap.mpr ⟨told, List.mem_cons_of_mem _ belongs, named⟩)
      rw [step, ih _ later, if_neg other]

theorem store_of_mem (held : Int64 → Option Breakpoint) {reports : List Breakpoint} {id : Int64}
    (member : id ∈ reports.filterMap (·.id)) :
    ∃ report ∈ reports, report.id = some id ∧ store held reports id = some report := by
  induction reports generalizing held with
  | nil => simp at member
  | cons first reports ih =>
      have step : store held (first :: reports) id =
          store (fun id => if first.id = some id then some first else held id) reports id := rfl
      by_cases later : id ∈ reports.filterMap (·.id)
      · obtain ⟨report, belongs, named, stored⟩ := ih _ later
        exact ⟨report, List.mem_cons_of_mem _ belongs, named, step.trans stored⟩
      · obtain ⟨report, belongs, named⟩ := List.mem_filterMap.mp member
        rcases List.mem_cons.mp belongs with same | last
        · refine ⟨first, by simp, same ▸ named, ?_⟩
          rw [step, store_of_absent _ later, if_pos (same ▸ named)]
        · exact absurd (List.mem_filterMap.mpr ⟨report, last, named⟩) later

theorem store_ne_none_of_mem (held : Int64 → Option Breakpoint) {reports : List Breakpoint}
    {id : Int64} (member : id ∈ reports.filterMap (·.id)) : store held reports id ≠ none := by
  obtain ⟨report, _, _, stored⟩ := store_of_mem held member
  rw [stored]
  exact Option.some_ne_none report

theorem ofTrace_concat (exchanges : List (Call × List Breakpoint))
    (exchange : Call × List Breakpoint) :
    ofTrace (exchanges ++ [exchange]) = (ofTrace exchanges).follow exchange := by
  simp [ofTrace, List.foldl_append]

theorem lastReplaced_concat (exchanges : List (Call × List Breakpoint))
    (exchange : Call × List Breakpoint) (path : String) :
    lastReplaced (exchanges ++ [exchange]) path =
      (replaced? path exchange).or (lastReplaced exchanges path) := by
  rw [lastReplaced, List.reverse_append, List.findSome?_append]
  cases found : replaced? path exchange <;> simp [found, lastReplaced]

section Renew

variable {replica : Replica} {clientPath path : String} {reports : List Breakpoint} {id : Int64}

theorem mem_reported_renew_iff :
    id ∈ (replica.renew clientPath reports).reported path ↔
      id ∈ replica.reported path ∨ path = clientPath ∧ id ∈ reports.filterMap (·.id) := by
  by_cases here : path = clientPath
  · simp [renew, here]
  · simp [renew, here]

def Fresh (replica : Replica) (reports : List Breakpoint) : Prop :=
  ∀ path, ∀ id ∈ replica.reported path, id ∉ reports.filterMap (·.id)

theorem Fresh.held_renew (fresh : replica.Fresh reports) (old : id ∈ replica.reported path) :
    (replica.renew clientPath reports).held id =
      if id ∈ replica.reported clientPath then none else replica.held id :=
  store_of_absent _ (fresh path id old)

theorem Fresh.holds_renewed_iff (fresh : replica.Fresh reports) :
    (replica.renew clientPath reports).Holds clientPath id ↔ id ∈ reports.filterMap (·.id) := by
  rw [Holds, mem_reported_renew_iff]
  constructor
  · rintro ⟨old | ⟨_, new⟩, present⟩
    · rw [fresh.held_renew old, if_pos old] at present
      contradiction
    · exact new
  · intro new
    exact ⟨Or.inr ⟨rfl, new⟩, store_ne_none_of_mem _ new⟩

theorem Fresh.holds_renew_of_other_iff (fresh : replica.Fresh reports) (other : path ≠ clientPath)
    (apart : id ∈ replica.reported path → id ∉ replica.reported clientPath) :
    (replica.renew clientPath reports).Holds path id ↔ replica.Holds path id := by
  have reported : id ∈ (replica.renew clientPath reports).reported path ↔
      id ∈ replica.reported path := by
    simp [mem_reported_renew_iff, other]
  rw [Holds, Holds, reported]
  refine and_congr_right ?_
  intro old
  rw [fresh.held_renew old, if_neg (apart old)]

end Renew

end Replica

end Debuggee
