import Debuggee.Protocol.Breakpoint

/-! Threads, stack frames, scopes and variables of a stopped run. -/

namespace Debuggee

structure Thread where
  id : Int64
  name : String
  deriving DecidableEq

def Thread.layout : Layout Thread :=
  .record "Thread" false
    (.cons (.required "id" .integer) <|
      .cons (.required "name" .text) <|
      .nil)
    (fun (id, name, _) => ⟨id, name⟩)
    (fun value => (value.id, value.name, ()))
    (fun _ => rfl)

instance : HasLayout Thread := ⟨Thread.layout⟩

structure StackFrame where
  id : Int64
  name : String
  source : Option Source := none
  line : Int64
  column : Int64 := 0
  endLine : Option Int64 := none
  endColumn : Option Int64 := none
  deriving DecidableEq

def StackFrame.layout : Layout StackFrame :=
  .record "StackFrame" false
    (.cons (.required "id" .integer) <|
      .cons (.required "name" .text) <|
      .cons (.optional "source" Source.layout) <|
      .cons (.required "line" .integer) <|
      .cons (.defaulted "column" .integer 0) <|
      .cons (.optional "endLine" .integer) <|
      .cons (.optional "endColumn" .integer) <|
      .nil)
    (fun (id, name, source, line, column, endLine, endColumn, _) =>
      ⟨id, name, source, line, column, endLine, endColumn⟩)
    (fun value =>
      (value.id, value.name, value.source, value.line, value.column, value.endLine,
        value.endColumn, ()))
    (fun _ => rfl)

instance : HasLayout StackFrame := ⟨StackFrame.layout⟩

structure Scope where
  name : String
  variablesReference : Int64
  expensive : Bool := false
  presentationHint : Option String := none
  namedVariables : Option Int64 := none
  indexedVariables : Option Int64 := none
  deriving DecidableEq

def Scope.layout : Layout Scope :=
  .record "Scope" false
    (.cons (.required "name" .text) <|
      .cons (.required "variablesReference" .integer) <|
      .cons (.defaulted "expensive" .boolean false) <|
      .cons (.optional "presentationHint" .text) <|
      .cons (.optional "namedVariables" .integer) <|
      .cons (.optional "indexedVariables" .integer) <|
      .nil)
    (fun (name, variablesReference, expensive, presentationHint, namedVariables,
          indexedVariables, _) =>
      ⟨name, variablesReference, expensive, presentationHint, namedVariables,
       indexedVariables⟩)
    (fun value =>
      (value.name, value.variablesReference, value.expensive, value.presentationHint,
        value.namedVariables, value.indexedVariables, ()))
    (fun _ => rfl)

instance : HasLayout Scope := ⟨Scope.layout⟩

structure VariablePresentationHint where
  kind : Option String := none
  attributes : Option (List String) := none
  visibility : Option String := none
  isLazy : Option Bool := none
  deriving DecidableEq

def VariablePresentationHint.layout : Layout VariablePresentationHint :=
  .record "VariablePresentationHint" false
    (.cons (.optional "kind" .text) <|
      .cons (.optional "attributes" (.list .text)) <|
      .cons (.optional "visibility" .text) <|
      .cons (.optional "lazy" .boolean) <|
      .nil)
    (fun (kind, attributes, visibility, isLazy, _) => ⟨kind, attributes, visibility, isLazy⟩)
    (fun value => (value.kind, value.attributes, value.visibility, value.isLazy, ()))
    (fun _ => rfl)

instance : HasLayout VariablePresentationHint := ⟨VariablePresentationHint.layout⟩

structure Variable where
  name : String
  value : String
  typeName : Option String := none
  variablesReference : Int64 := 0
  evaluateName : Option String := none
  namedVariables : Option Int64 := none
  indexedVariables : Option Int64 := none
  presentationHint : Option VariablePresentationHint := none
  deriving DecidableEq

def Variable.layout : Layout Variable :=
  .record "Variable" false
    (.cons (.required "name" .text) <|
      .cons (.required "value" .text) <|
      .cons (.optional "type" .text) <|
      .cons (.defaulted "variablesReference" .integer 0) <|
      .cons (.optional "evaluateName" .text) <|
      .cons (.optional "namedVariables" .integer) <|
      .cons (.optional "indexedVariables" .integer) <|
      .cons (.optional "presentationHint" VariablePresentationHint.layout) <|
      .nil)
    (fun (name, value, typeName, variablesReference, evaluateName, namedVariables,
          indexedVariables, presentationHint, _) =>
      ⟨name, value, typeName, variablesReference, evaluateName, namedVariables,
       indexedVariables, presentationHint⟩)
    (fun value =>
      (value.name, value.value, value.typeName, value.variablesReference, value.evaluateName,
        value.namedVariables, value.indexedVariables, value.presentationHint, ()))
    (fun _ => rfl)

instance : HasLayout Variable := ⟨Variable.layout⟩

end Debuggee
