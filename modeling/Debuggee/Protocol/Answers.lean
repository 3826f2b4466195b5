import Debuggee.Protocol.Stack

/-! Bodies of the responses to requests. -/

namespace Debuggee

structure ContinueAnswer where
  allThreadsContinued : Option Bool := none
  deriving DecidableEq

def ContinueAnswer.layout : Layout ContinueAnswer :=
  .record "ContinueResponseBody" false
    (.cons (.optional "allThreadsContinued" .boolean) <|
      .nil)
    (fun (allThreadsContinued, _) => ⟨allThreadsContinued⟩)
    (fun value => (value.allThreadsContinued, ()))
    (fun _ => rfl)

instance : HasLayout ContinueAnswer := ⟨ContinueAnswer.layout⟩

structure EvaluateAnswer where
  result : String
  typeName : Option String := none
  variablesReference : Int64 := 0
  namedVariables : Option Int64 := none
  indexedVariables : Option Int64 := none
  presentationHint : Option VariablePresentationHint := none
  deriving DecidableEq

def EvaluateAnswer.layout : Layout EvaluateAnswer :=
  .record "EvaluateResponseBody" false
    (.cons (.required "result" .text) <|
      .cons (.optional "type" .text) <|
      .cons (.defaulted "variablesReference" .integer 0) <|
      .cons (.optional "namedVariables" .integer) <|
      .cons (.optional "indexedVariables" .integer) <|
      .cons (.optional "presentationHint" VariablePresentationHint.layout) <|
      .nil)
    (fun (result, typeName, variablesReference, namedVariables, indexedVariables,
          presentationHint, _) =>
      ⟨result, typeName, variablesReference, namedVariables, indexedVariables,
       presentationHint⟩)
    (fun value =>
      (value.result, value.typeName, value.variablesReference, value.namedVariables,
        value.indexedVariables, value.presentationHint, ()))
    (fun _ => rfl)

instance : HasLayout EvaluateAnswer := ⟨EvaluateAnswer.layout⟩

structure ScopesAnswer where
  scopes : List Scope
  deriving DecidableEq

def ScopesAnswer.layout : Layout ScopesAnswer :=
  .record "ScopesResponseBody" false
    (.cons (.required "scopes" (.list Scope.layout)) <|
      .nil)
    (fun (scopes, _) => ⟨scopes⟩)
    (fun value => (value.scopes, ()))
    (fun _ => rfl)

instance : HasLayout ScopesAnswer := ⟨ScopesAnswer.layout⟩

structure SetBreakpointsAnswer where
  breakpoints : List Breakpoint
  deriving DecidableEq

def SetBreakpointsAnswer.layout : Layout SetBreakpointsAnswer :=
  .record "SetBreakpointsResponseBody" false
    (.cons (.required "breakpoints" (.list Breakpoint.layout)) <|
      .nil)
    (fun (breakpoints, _) => ⟨breakpoints⟩)
    (fun value => (value.breakpoints, ()))
    (fun _ => rfl)

instance : HasLayout SetBreakpointsAnswer := ⟨SetBreakpointsAnswer.layout⟩

structure SetVariableAnswer where
  value : String
  typeName : Option String := none
  variablesReference : Option Int64 := none
  namedVariables : Option Int64 := none
  indexedVariables : Option Int64 := none
  deriving DecidableEq

def SetVariableAnswer.layout : Layout SetVariableAnswer :=
  .record "SetVariableResponseBody" false
    (.cons (.required "value" .text) <|
      .cons (.optional "type" .text) <|
      .cons (.optional "variablesReference" .integer) <|
      .cons (.optional "namedVariables" .integer) <|
      .cons (.optional "indexedVariables" .integer) <|
      .nil)
    (fun (value, typeName, variablesReference, namedVariables, indexedVariables, _) =>
      ⟨value, typeName, variablesReference, namedVariables, indexedVariables⟩)
    (fun value =>
      (value.value, value.typeName, value.variablesReference, value.namedVariables,
        value.indexedVariables, ()))
    (fun _ => rfl)

instance : HasLayout SetVariableAnswer := ⟨SetVariableAnswer.layout⟩

structure StackTraceAnswer where
  stackFrames : List StackFrame
  totalFrames : Option Int64 := none
  deriving DecidableEq

def StackTraceAnswer.layout : Layout StackTraceAnswer :=
  .record "StackTraceResponseBody" false
    (.cons (.required "stackFrames" (.list StackFrame.layout)) <|
      .cons (.optional "totalFrames" .integer) <|
      .nil)
    (fun (stackFrames, totalFrames, _) => ⟨stackFrames, totalFrames⟩)
    (fun value => (value.stackFrames, value.totalFrames, ()))
    (fun _ => rfl)

instance : HasLayout StackTraceAnswer := ⟨StackTraceAnswer.layout⟩

structure ThreadsAnswer where
  threads : List Thread
  deriving DecidableEq

def ThreadsAnswer.layout : Layout ThreadsAnswer :=
  .record "ThreadsResponseBody" false
    (.cons (.required "threads" (.list Thread.layout)) <|
      .nil)
    (fun (threads, _) => ⟨threads⟩)
    (fun value => (value.threads, ()))
    (fun _ => rfl)

instance : HasLayout ThreadsAnswer := ⟨ThreadsAnswer.layout⟩

structure VariablesAnswer where
  «variables» : List Variable
  deriving DecidableEq

def VariablesAnswer.layout : Layout VariablesAnswer :=
  .record "VariablesResponseBody" false
    (.cons (.required "variables" (.list Variable.layout)) <|
      .nil)
    (fun (listed, _) => ⟨listed⟩)
    (fun value => (value.variables, ()))
    (fun _ => rfl)

instance : HasLayout VariablesAnswer := ⟨VariablesAnswer.layout⟩

end Debuggee
