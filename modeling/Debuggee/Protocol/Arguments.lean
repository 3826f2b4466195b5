import Debuggee.Protocol.Breakpoint

/-! Arguments of the requests that a client may make. -/

namespace Debuggee

structure ContinueArguments where
  threadId : Int64
  singleThread : Bool := false
  deriving DecidableEq

def ContinueArguments.layout : Layout ContinueArguments :=
  .record "ContinueArguments" false
    (.cons (.required "threadId" .integer) <|
      .cons (.defaulted "singleThread" .boolean false) <|
      .nil)
    (fun (threadId, singleThread, _) => ⟨threadId, singleThread⟩)
    (fun value => (value.threadId, value.singleThread, ()))
    (fun _ => rfl)

instance : HasLayout ContinueArguments := ⟨ContinueArguments.layout⟩

structure EvaluateArguments where
  expression : String
  frameId : Option Int64 := none
  context : Option String := none
  deriving DecidableEq

def EvaluateArguments.layout : Layout EvaluateArguments :=
  .record "EvaluateArguments" false
    (.cons (.required "expression" .text) <|
      .cons (.optional "frameId" .integer) <|
      .cons (.optional "context" .text) <|
      .nil)
    (fun (expression, frameId, context, _) => ⟨expression, frameId, context⟩)
    (fun value => (value.expression, value.frameId, value.context, ()))
    (fun _ => rfl)

instance : HasLayout EvaluateArguments := ⟨EvaluateArguments.layout⟩

structure NextArguments where
  threadId : Int64
  singleThread : Bool := false
  granularity : Option String := none
  deriving DecidableEq

def NextArguments.layout : Layout NextArguments :=
  .record "NextArguments" false
    (.cons (.required "threadId" .integer) <|
      .cons (.defaulted "singleThread" .boolean false) <|
      .cons (.optional "granularity" .text) <|
      .nil)
    (fun (threadId, singleThread, granularity, _) => ⟨threadId, singleThread, granularity⟩)
    (fun value => (value.threadId, value.singleThread, value.granularity, ()))
    (fun _ => rfl)

instance : HasLayout NextArguments := ⟨NextArguments.layout⟩

structure ScopesArguments where
  frameId : Int64
  deriving DecidableEq

def ScopesArguments.layout : Layout ScopesArguments :=
  .record "ScopesArguments" false
    (.cons (.required "frameId" .integer) <|
      .nil)
    (fun (frameId, _) => ⟨frameId⟩)
    (fun value => (value.frameId, ()))
    (fun _ => rfl)

instance : HasLayout ScopesArguments := ⟨ScopesArguments.layout⟩

/-- `lines` is an older way to ask, and counts only without `breakpoints`. -/
structure SetBreakpointsArguments where
  source : Source
  breakpoints : Option (List SourceBreakpoint) := none
  lines : Option (List Int64) := none
  sourceModified : Bool := false
  deriving DecidableEq

def SetBreakpointsArguments.layout : Layout SetBreakpointsArguments :=
  .record "SetBreakpointsArguments" false
    (.cons (.required "source" Source.layout) <|
      .cons (.optional "breakpoints" (.list SourceBreakpoint.layout)) <|
      .cons (.optional "lines" (.list .integer)) <|
      .cons (.defaulted "sourceModified" .boolean false) <|
      .nil)
    (fun (source, breakpoints, lines, sourceModified, _) =>
      ⟨source, breakpoints, lines, sourceModified⟩)
    (fun value => (value.source, value.breakpoints, value.lines, value.sourceModified, ()))
    (fun _ => rfl)

instance : HasLayout SetBreakpointsArguments := ⟨SetBreakpointsArguments.layout⟩

structure SetVariableArguments where
  variablesReference : Int64
  name : String
  value : String
  deriving DecidableEq

def SetVariableArguments.layout : Layout SetVariableArguments :=
  .record "SetVariableArguments" false
    (.cons (.required "variablesReference" .integer) <|
      .cons (.required "name" .text) <|
      .cons (.required "value" .text) <|
      .nil)
    (fun (variablesReference, name, value, _) => ⟨variablesReference, name, value⟩)
    (fun value => (value.variablesReference, value.name, value.value, ()))
    (fun _ => rfl)

instance : HasLayout SetVariableArguments := ⟨SetVariableArguments.layout⟩

structure StackTraceArguments where
  threadId : Int64
  startFrame : Option Int64 := none
  levels : Option Int64 := none
  deriving DecidableEq

def StackTraceArguments.layout : Layout StackTraceArguments :=
  .record "StackTraceArguments" false
    (.cons (.required "threadId" .integer) <|
      .cons (.optional "startFrame" .integer) <|
      .cons (.optional "levels" .integer) <|
      .nil)
    (fun (threadId, startFrame, levels, _) => ⟨threadId, startFrame, levels⟩)
    (fun value => (value.threadId, value.startFrame, value.levels, ()))
    (fun _ => rfl)

instance : HasLayout StackTraceArguments := ⟨StackTraceArguments.layout⟩

structure StepInArguments where
  threadId : Int64
  singleThread : Bool := false
  targetId : Option Int64 := none
  deriving DecidableEq

def StepInArguments.layout : Layout StepInArguments :=
  .record "StepInArguments" false
    (.cons (.required "threadId" .integer) <|
      .cons (.defaulted "singleThread" .boolean false) <|
      .cons (.optional "targetId" .integer) <|
      .nil)
    (fun (threadId, singleThread, targetId, _) => ⟨threadId, singleThread, targetId⟩)
    (fun value => (value.threadId, value.singleThread, value.targetId, ()))
    (fun _ => rfl)

instance : HasLayout StepInArguments := ⟨StepInArguments.layout⟩

structure StepOutArguments where
  threadId : Int64
  singleThread : Bool := false
  deriving DecidableEq

def StepOutArguments.layout : Layout StepOutArguments :=
  .record "StepOutArguments" false
    (.cons (.required "threadId" .integer) <|
      .cons (.defaulted "singleThread" .boolean false) <|
      .nil)
    (fun (threadId, singleThread, _) => ⟨threadId, singleThread⟩)
    (fun value => (value.threadId, value.singleThread, ()))
    (fun _ => rfl)

instance : HasLayout StepOutArguments := ⟨StepOutArguments.layout⟩

structure VariablesArguments where
  variablesReference : Int64
  filter : Option String := none
  start : Option Int64 := none
  count : Option Int64 := none
  deriving DecidableEq

def VariablesArguments.layout : Layout VariablesArguments :=
  .record "VariablesArguments" false
    (.cons (.required "variablesReference" .integer) <|
      .cons (.optional "filter" .text) <|
      .cons (.optional "start" .integer) <|
      .cons (.optional "count" .integer) <|
      .nil)
    (fun (variablesReference, filter, start, count, _) =>
      ⟨variablesReference, filter, start, count⟩)
    (fun value => (value.variablesReference, value.filter, value.start, value.count, ()))
    (fun _ => rfl)

instance : HasLayout VariablesArguments := ⟨VariablesArguments.layout⟩

def SetBreakpointsArguments.requested (arguments : SetBreakpointsArguments) :
    List SourceBreakpoint :=
  match arguments.breakpoints, arguments.lines with
  | some breakpoints, _ => breakpoints
  | none, some lines => lines.map fun line => {line := line}
  | none, none => []

def SetBreakpointsArguments.clientPath (arguments : SetBreakpointsArguments) : String :=
  arguments.source.path.getD ""

end Debuggee
