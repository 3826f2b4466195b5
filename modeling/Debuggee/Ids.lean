/-!
Numbers by which a run names its threads, stack frames and variables. No number is given twice.
Thread 1 is the run itself and needs no number.
-/

namespace Debuggee

inductive IdKind where
  | thread
  | stackFrame
  | scopeVariable
  deriving DecidableEq, Repr

structure IdAllocator where
  nextThread : Int64 := 2
  nextStackFrame : Int64 := 1
  nextVariable : Int64 := 1
  deriving DecidableEq, Repr

def IdAllocator.next (ids : IdAllocator) : IdKind → Int64 × IdAllocator
  | .thread => (ids.nextThread, { ids with nextThread := ids.nextThread + 1 })
  | .stackFrame => (ids.nextStackFrame, { ids with nextStackFrame := ids.nextStackFrame + 1 })
  | .scopeVariable => (ids.nextVariable, { ids with nextVariable := ids.nextVariable + 1 })

end Debuggee
