import Debuggee.NumberMap

/-!
Line tables. A run tells of some lines of a file that a task starts there, or that nothing can
stop there; every other line goes with the nearest such line above it. Tables are sparse: they
hold the lines told of, and how many lines they cover.
-/

namespace Debuggee

inductive LineKind where
  /-- Nothing can stop here, nor below until the next line told of. -/
  | invalid
  | start
  deriving DecidableEq, Repr

/-- The lines from `start` up to `stop`, which is not one of them, and whether one can stop. -/
@[ext]
structure Resolution where
  verified : Bool
  start : Nat
  stop : Nat
  deriving DecidableEq, Repr

def Resolution.contains (resolution : Resolution) (line : Int64) : Bool :=
  resolution.start ≤ line.toInt && line.toInt < resolution.stop

/-- Line zero is always there and always invalid. -/
structure LineTable where
  entries : NumberMap LineKind := NumberMap.empty.set 0 .invalid
  length : Nat := 1
  deriving DecidableEq, Repr

namespace LineTable

/-- The greatest line number; a table that covers it ends there. -/
def maxLine : Nat := Int64.maxValue.toInt.toNat

def lineIndex (line : Int64) : Nat :=
  line.toInt.toNat

/-- Tells of one line. The table grows to cover it; lines up to zero change nothing. -/
def register (table : LineTable) (line : Int64) (kind : LineKind) : LineTable :=
  let index := lineIndex line
  if index = 0 then table
  else
    { entries := table.entries.set index kind
      length := if table.length ≤ index then min (index + 1) maxLine else table.length }

/-- The range that a requested line belongs to. Lines past the end belong to the last range. -/
def resolve (table : LineTable) (line : Int64) : Resolution :=
  let index := min (lineIndex line) (table.length - 1)
  let (start, kind) := (table.entries.atOrBelow? index).getD (0, .invalid)
  { verified := kind = .start
    start := start
    stop := ((table.entries.above? start).map (·.1)).getD table.length }

end LineTable

end Debuggee
