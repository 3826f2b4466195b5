import Debuggee.Protocol.Events

/-!
How paths of the client and of the run correspond, by the roots that the client has paired.
The first pair whose root begins a path decides; a path that no root begins stays as it is.
-/

namespace Debuggee

structure PathMapping where
  localRoot : String
  remoteRoot : String
  deriving DecidableEq

def PathMapping.layout : Layout PathMapping :=
  .record "PathMapping" false
    (.cons (.required "local_root" .text) <|
      .cons (.required "remote_root" .text) <|
      .nil)
    (fun (localRoot, remoteRoot, _) => ⟨localRoot, remoteRoot⟩)
    (fun value => (value.localRoot, value.remoteRoot, ()))
    (fun _ => rfl)

instance : HasLayout PathMapping := ⟨PathMapping.layout⟩

structure DebugConfiguration where
  pathMappings : List PathMapping := []
  deriving DecidableEq

def DebugConfiguration.layout : Layout DebugConfiguration :=
  .record "DebugConfiguration" false
    (.cons (.defaulted "path_mappings" (.list PathMapping.layout) []) .nil)
    (fun (pathMappings, _) => ⟨pathMappings⟩)
    (fun value => (value.pathMappings, ()))
    (fun _ => rfl)

instance : HasLayout DebugConfiguration := ⟨DebugConfiguration.layout⟩

namespace DebugConfiguration

/-- The path with its root exchanged, by the first pair whose `source` begins it. -/
def translateList (roots : List (List Char × List Char)) (path : List Char) : List Char :=
  match roots with
  | [] => path
  | (source, target) :: roots =>
    if source.isPrefixOf path then target ++ path.drop source.length
    else translateList roots path

def translate (roots : List (String × String)) (path : String) : String :=
  String.ofList (translateList (roots.map fun root => (root.1.toList, root.2.toList)) path.toList)

def toRuntimePath (configuration : DebugConfiguration) (path : String) : String :=
  translate (configuration.pathMappings.map fun mapping => (mapping.localRoot, mapping.remoteRoot))
    path

def toClientPath (configuration : DebugConfiguration) (path : String) : String :=
  translate (configuration.pathMappings.map fun mapping => (mapping.remoteRoot, mapping.localRoot))
    path

def category : String := "ansibug_debug_configuration"

def ofOutput? (event : OutputEvent) : Option DebugConfiguration :=
  if event.category = some category then
    match event.data with
    | none => none
    | some data => (fromJson data).toOption
  else none

end DebugConfiguration

end Debuggee
