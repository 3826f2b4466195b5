import Debuggee.Json.Text

/-! Sources and breakpoints, as they travel between the client and the debuggee. -/

namespace Debuggee

structure Source where
  name : Option String := none
  path : Option String := none
  sourceReference : Option Int64 := none
  deriving DecidableEq

def Source.layout : Layout Source :=
  .record "Source" false
    (.cons (.optional "name" .text) <|
      .cons (.optional "path" .text) <|
      .cons (.optional "sourceReference" .integer) <|
      .nil)
    (fun (name, path, sourceReference, _) => ⟨name, path, sourceReference⟩)
    (fun value => (value.name, value.path, value.sourceReference, ()))
    (fun _ => rfl)

instance : HasLayout Source := ⟨Source.layout⟩

structure SourceBreakpoint where
  line : Int64
  column : Option Int64 := none
  condition : Option String := none
  hitCondition : Option String := none
  logMessage : Option String := none
  deriving DecidableEq

def SourceBreakpoint.layout : Layout SourceBreakpoint :=
  .record "SourceBreakpoint" false
    (.cons (.required "line" .integer) <|
      .cons (.optional "column" .integer) <|
      .cons (.optional "condition" .text) <|
      .cons (.optional "hitCondition" .text) <|
      .cons (.optional "logMessage" .text) <|
      .nil)
    (fun (line, column, condition, hitCondition, logMessage, _) =>
      ⟨line, column, condition, hitCondition, logMessage⟩)
    (fun value =>
      (value.line, value.column, value.condition, value.hitCondition, value.logMessage, ()))
    (fun _ => rfl)

instance : HasLayout SourceBreakpoint := ⟨SourceBreakpoint.layout⟩

/-- A breakpoint as it is reported to the client. `endLine` is the last line of its range. -/
structure Breakpoint where
  id : Option Int64 := none
  verified : Bool
  message : Option String := none
  source : Option Source := none
  line : Option Int64 := none
  column : Option Int64 := none
  endLine : Option Int64 := none
  endColumn : Option Int64 := none
  deriving DecidableEq

def Breakpoint.layout : Layout Breakpoint :=
  .record "Breakpoint" false
    (.cons (.optional "id" .integer) <|
      .cons (.required "verified" .boolean) <|
      .cons (.optional "message" .text) <|
      .cons (.optional "source" Source.layout) <|
      .cons (.optional "line" .integer) <|
      .cons (.optional "column" .integer) <|
      .cons (.optional "endLine" .integer) <|
      .cons (.optional "endColumn" .integer) <|
      .nil)
    (fun (id, verified, message, source, line, column, endLine, endColumn, _) =>
      ⟨id, verified, message, source, line, column, endLine, endColumn⟩)
    (fun value =>
      (value.id, value.verified, value.message, value.source, value.line, value.column,
        value.endLine, value.endColumn, ()))
    (fun _ => rfl)

instance : HasLayout Breakpoint := ⟨Breakpoint.layout⟩

end Debuggee
