import Debuggee.Json.Text

/-!
Discovery files. A run that waits for a client leaves a file in a directory that both know; the
file tells where the run can be reached. Directories are given by what they hold.
-/

namespace Debuggee

structure ProcessInfo where
  pid : UInt32
  host : String
  port : UInt16
  isIpv6 : Bool
  useTls : Bool
  playbookFile : Option String
  deriving DecidableEq

def ProcessInfo.layout : Layout ProcessInfo :=
  .record "PlaybookProcessInfo" false
    (.cons (.required "pid" .word32) <|
      .cons (.required "host" .text) <|
      .cons (.required "port" .word16) <|
      .cons (.required "is_ipv6" .boolean) <|
      .cons (.required "use_tls" .boolean) <|
      .cons (.nullable "playbook_file" .text false) <|
      .nil)
    (fun (pid, host, port, isIpv6, useTls, playbookFile, _) =>
      ⟨pid, host, port, isIpv6, useTls, playbookFile⟩)
    (fun value =>
      (value.pid, value.host, value.port, value.isIpv6, value.useTls, value.playbookFile, ()))
    (fun _ => rfl)

instance : HasLayout ProcessInfo := ⟨ProcessInfo.layout⟩

namespace Discovery

def filePrefix : String := "ANSIBUG-"

def directory (configured temporary : Option String) : String :=
  match configured with
  | some directory => directory
  | none =>
    match temporary with
    | some directory => if directory.isEmpty then "/tmp" else directory
    | none => "/tmp"

def fileName (pid : UInt32) : String :=
  filePrefix ++ toString pid.toNat

def inDirectory (directory name : String) : String :=
  if directory.isEmpty || directory.toList.getLast? = some '/' then directory ++ name
  else directory ++ "/" ++ name

def path (directory : String) (pid : UInt32) : String :=
  inDirectory directory (fileName pid)

inductive Entry where
  | file (content : Bytes)
  | directory
  deriving DecidableEq

/-- What a directory holds, in no particular order; names are octets. -/
abbrev Directory := List (Bytes × Entry)

inductive FileError where
  | notFound
  | isDirectory
  | invalid (error : LayoutError)
  deriving DecidableEq

def FileError.message : FileError → String
  | .notFound => "No such file or directory (os error 2)"
  | .isDirectory => "Is a directory (os error 21)"
  | .invalid error => error.message

def read : Option Entry → Except FileError ProcessInfo
  | none => .error .notFound
  | some .directory => .error .isDirectory
  | some (.file content) => (fromText content).mapError .invalid

def put (directory : Directory) (name : Bytes) (entry : Entry) : Directory :=
  directory.filter (·.1 ≠ name) ++ [(name, entry)]

def write (directory : Option Directory) (info : ProcessInfo) : Except FileError Directory :=
  match directory with
  | none => .error .notFound
  | some entries =>
    let name := Bytes.ofString (fileName info.pid)
    match entries.lookup name with
    | some .directory => .error .isDirectory
    | _ => .ok (put entries name (.file (toText info)))

def isDiscoveryName (name : Bytes) : Bool :=
  match Bytes.text? name with
  | some text => filePrefix.toList.isPrefixOf text.toList
  | none => false

def info? (entry : Bytes × Entry) : Option ProcessInfo :=
  if isDiscoveryName entry.1 then (read (some entry.2)).toOption else none

def list (directory : Option Directory) : Except FileError (List ProcessInfo) :=
  match directory with
  | none => .error .notFound
  | some entries =>
    .ok ((entries.filterMap info?).mergeSort fun left right => left.pid ≤ right.pid)

/-- Removes a file; that it is gone already is as good. -/
def remove (directory : Directory) (name : Bytes) : Except FileError Directory :=
  match directory.lookup name with
  | some .directory => .error .isDirectory
  | _ => .ok (directory.filter (·.1 ≠ name))

end Discovery

end Debuggee
