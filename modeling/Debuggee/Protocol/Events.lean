import Debuggee.Protocol.Breakpoint

/-! Bodies of events, in either direction. -/

namespace Debuggee

structure BreakpointEvent where
  reason : String
  breakpoint : Breakpoint
  deriving DecidableEq

def BreakpointEvent.layout : Layout BreakpointEvent :=
  .record "BreakpointEventBody" false
    (.cons (.required "reason" .text) <|
      .cons (.required "breakpoint" Breakpoint.layout) <|
      .nil)
    (fun (reason, breakpoint, _) => ⟨reason, breakpoint⟩)
    (fun value => (value.reason, value.breakpoint, ()))
    (fun _ => rfl)

instance : HasLayout BreakpointEvent := ⟨BreakpointEvent.layout⟩

structure OutputEvent where
  category : Option String := none
  output : String := ""
  data : Option Json := none

def OutputEvent.layout : Layout OutputEvent :=
  .record "OutputEventBody" false
    (.cons (.optional "category" .text) <|
      .cons (.defaulted "output" .text "") <|
      .cons (.optional "data" .anything) <|
      .nil)
    (fun (category, output, data, _) => ⟨category, output, data⟩)
    (fun value => (value.category, value.output, value.data, ()))
    (fun _ => rfl)

instance : HasLayout OutputEvent := ⟨OutputEvent.layout⟩

structure StoppedEvent where
  reason : String
  description : Option String := none
  threadId : Option Int64 := none
  allThreadsStopped : Option Bool := none
  hitBreakpointIds : Option (List Int64) := none
  deriving DecidableEq

def StoppedEvent.layout : Layout StoppedEvent :=
  .record "StoppedEventBody" false
    (.cons (.required "reason" .text) <|
      .cons (.optional "description" .text) <|
      .cons (.optional "threadId" .integer) <|
      .cons (.optional "allThreadsStopped" .boolean) <|
      .cons (.optional "hitBreakpointIds" (.list .integer)) <|
      .nil)
    (fun (reason, description, threadId, allThreadsStopped, hitBreakpointIds, _) =>
      ⟨reason, description, threadId, allThreadsStopped, hitBreakpointIds⟩)
    (fun value =>
      (value.reason, value.description, value.threadId, value.allThreadsStopped,
        value.hitBreakpointIds, ()))
    (fun _ => rfl)

instance : HasLayout StoppedEvent := ⟨StoppedEvent.layout⟩

structure ThreadEvent where
  reason : String
  threadId : Int64
  deriving DecidableEq

def ThreadEvent.layout : Layout ThreadEvent :=
  .record "ThreadEventBody" false
    (.cons (.required "reason" .text) <|
      .cons (.required "threadId" .integer) <|
      .nil)
    (fun (reason, threadId, _) => ⟨reason, threadId⟩)
    (fun value => (value.reason, value.threadId, ()))
    (fun _ => rfl)

instance : HasLayout ThreadEvent := ⟨ThreadEvent.layout⟩

end Debuggee
