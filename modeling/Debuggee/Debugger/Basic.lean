import Debuggee.Config
import Debuggee.Discovery
import Debuggee.Ids
import Debuggee.PathMapping
import Debuggee.Registry
import Debuggee.Session.Connection
import Debuggee.Session.Handoff
import Debuggee.Session.SendQueue
import Debuggee.Session.Transport
import Debuggee.Strategy

/-!
The debugger: the state that its connection, the client and the run share, and what the run asks
of it. Messages are sent only while a session is open, and nothing stops without one.
-/

namespace Debuggee

inductive SocketMode where
  | connect
  | listen
  deriving DecidableEq, Repr

structure StartOptions where
  mode : SocketMode
  host : String
  port : UInt16 := 0
  wrapped : Bool := false
  playbookFile : Option String := none
  deriving DecidableEq

inductive Phase where
  | notStarted
  | binding
  | dialling
  | listening
  | inSession (mode : SocketMode)
  /-- The session is over, and what its client has sent is still being read. -/
  | leaving (mode : SocketMode)
  | finished
  deriving DecidableEq, Repr

inductive AttachStage where
  | inLine
  /-- The strategy has its place, and the client has not finished its configuration. -/
  | waiting
  | returned
  deriving DecidableEq, Repr

structure Debugger where
  config : Config := {}
  pid : UInt32 := 0
  /-- What the directory for discovery files holds; none if there is no such directory. -/
  directory : Option Discovery.Directory := some []
  options : Option StartOptions := none
  phase : Phase := .notStarted
  discoverable : Bool := false
  canceller : Canceller Nat := {}
  queue : SendQueue ServerMessage := {}
  connection : Connection := {}
  handoff : Handoff Strategy := {}
  attachments : List (Strategy × AttachStage) := []
  registry : Registry := {}
  configuration : DebugConfiguration := {}
  ids : IdAllocator := {}

inductive Effect where
  | address (outcome : Except TransportError Address)
  | sessionOpened
  | sessionClosed (dropped : Nat)
  | asked (strategy : String) (command : Command)
  | ended (strategy : String)

namespace Debugger

def send (debugger : Debugger) (message : ServerMessage) : Bool × Debugger :=
  let (taken, queue) := debugger.queue.push message
  (taken, { debugger with queue := queue })

def sendAll (debugger : Debugger) (messages : List ServerMessage) : Debugger :=
  messages.foldl (fun debugger message => (debugger.send message).2) debugger

def registerLine (debugger : Debugger) (path : String) (line : Int64) (kind : LineKind) :
    Debugger :=
  let (registry, changed) := debugger.registry.register path line kind
  { debugger with registry := registry }.sendAll
    (changed.map fun breakpoint => .event (Event.breakpointChanged breakpoint))

def lookup (debugger : Debugger) (path : String) (line : Int64) : Option LineBreakpoint :=
  if debugger.queue.active then debugger.registry.lookup path line else none

def nextId (debugger : Debugger) (kind : IdKind) : Int64 × Debugger :=
  let (number, ids) := debugger.ids.next kind
  (number, { debugger with ids := ids })

def toClientPath (debugger : Debugger) (path : String) : String :=
  debugger.configuration.toClientPath path

def hasSeenClient (debugger : Debugger) : Bool :=
  debugger.connection.everConnected

end Debugger

end Debuggee
