import Debuggee.LineTable
import Debuggee.Protocol.Breakpoint

/-!
The breakpoints of a debuggee. A client replaces the breakpoints of one of its paths at a time;
the run tells of lines as it loads files. Breakpoints are resolved by the table of their file and
again whenever that table changes, and the changed ones are reported.
-/

namespace Debuggee

/-- A breakpoint that is kept. Without a resolution its file has not been loaded. -/
structure LineBreakpoint where
  id : Nat
  source : Source
  asked : SourceBreakpoint
  clientPath : String
  runtimePath : String
  resolution : Option Resolution
  deriving DecidableEq

def modifiedSourceMessage : String := "Cannot set breakpoint on a modified source"

def notLoadedMessage : String :=
  "File has not been loaded by Ansible, cannot detect breakpoints yet"

def invalidLineMessage : String := "Breakpoint cannot be set here"

namespace LineBreakpoint

/-- How a breakpoint is reported. Reports give the last line of a range, not the one after it. -/
def report (breakpoint : LineBreakpoint) : Breakpoint :=
  match breakpoint.resolution with
  | some resolution =>
    { id := some (Int64.ofNat breakpoint.id)
      verified := resolution.verified
      message := if resolution.verified then none else some invalidLineMessage
      source := some breakpoint.source
      line := some (Int64.ofNat resolution.start)
      endLine := some (Int64.ofNat (resolution.stop - 1)) }
  | none =>
    { id := some (Int64.ofNat breakpoint.id)
      verified := false
      message := some notLoadedMessage
      source := some breakpoint.source
      line := some breakpoint.asked.line
      column := breakpoint.asked.column }

def refresh (path : String) (table : LineTable) (breakpoint : LineBreakpoint) : LineBreakpoint :=
  if breakpoint.runtimePath = path then
    { breakpoint with resolution := some (table.resolve breakpoint.asked.line) }
  else breakpoint

def covers (breakpoint : LineBreakpoint) (path : String) (line : Int64) : Bool :=
  breakpoint.runtimePath = path && breakpoint.resolution.any (·.contains line)

end LineBreakpoint

def modifiedReport (id : Nat) (source : Source) : Breakpoint where
  id := some (Int64.ofNat id)
  verified := false
  message := some modifiedSourceMessage
  source := some source

/-- What is known of files, and the breakpoints by their numbers, all of them below `nextId`. -/
structure Registry where
  tables : List (String × LineTable) := []
  breakpoints : NumberMap LineBreakpoint := .empty
  nextId : Nat := 1
  deriving DecidableEq

namespace Registry

def setTable (path : String) (table : LineTable) :
    List (String × LineTable) → List (String × LineTable)
  | [] => [(path, table)]
  | (other, kept) :: tables =>
    if other = path then (path, table) :: tables
    else (other, kept) :: setTable path table tables

def table? (registry : Registry) (path : String) : Option LineTable :=
  registry.tables.lookup path

/--
The run tells of a line. The second component reports the breakpoints that are no longer resolved
as before, in order of their numbers.
-/
def register (registry : Registry) (path : String) (line : Int64) (kind : LineKind) :
    Registry × List Breakpoint :=
  let table := ((registry.table? path).getD {}).register line kind
  let refresh := LineBreakpoint.refresh path table
  let changed := registry.breakpoints.values.filter fun breakpoint =>
    refresh breakpoint ≠ breakpoint
  ({ registry with
      tables := setTable path table registry.tables
      breakpoints := registry.breakpoints.mapValues refresh },
    changed.map fun breakpoint => (refresh breakpoint).report)

def create (clientPath runtimePath : String) (source : Source) (table : Option LineTable) :
    Nat → List SourceBreakpoint → List LineBreakpoint
  | _, [] => []
  | id, asked :: others =>
    { id := id
      source := source
      asked := asked
      clientPath := clientPath
      runtimePath := runtimePath
      resolution := table.map fun table => table.resolve asked.line } ::
      create clientPath runtimePath source table (id + 1) others

def keep (breakpoints : NumberMap LineBreakpoint) (created : List LineBreakpoint) :
    NumberMap LineBreakpoint :=
  created.foldl (fun breakpoints breakpoint => breakpoints.set breakpoint.id breakpoint) breakpoints

/--
A client replaces the breakpoints of one path. There is one report for each breakpoint asked for,
in the order of the request. Those on a modified source are numbered and reported, but not kept.
-/
def replace (registry : Registry) (clientPath runtimePath : String) (source : Source)
    (asked : List SourceBreakpoint) (modified : Bool) : Registry × List Breakpoint :=
  let kept := registry.breakpoints.filterValues fun breakpoint =>
    breakpoint.clientPath ≠ clientPath
  let created := create clientPath runtimePath source (registry.table? runtimePath)
    registry.nextId asked
  let nextId := registry.nextId + asked.length
  if modified then
    ({ registry with breakpoints := kept, nextId := nextId },
      created.map fun breakpoint => modifiedReport breakpoint.id source)
  else
    ({ registry with breakpoints := keep kept created, nextId := nextId },
      created.map LineBreakpoint.report)

def lookup (registry : Registry) (path : String) (line : Int64) : Option LineBreakpoint :=
  registry.breakpoints.values.find? fun breakpoint => breakpoint.covers path line

end Registry

end Debuggee
