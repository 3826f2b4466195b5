/-!
Whether a client is connected, and whether it has said that its configuration is done. Whoever
attaches a strategy waits for that word of the session that is open.
-/

namespace Debuggee

structure Connection where
  connected : Bool := false
  everConnected : Bool := false
  /-- Whether the client of the current session is done with its configuration. -/
  configured : Bool := false
  terminated : Bool := false
  deriving DecidableEq, Repr

namespace Connection

def opened (connection : Connection) : Connection :=
  { connection with connected := true, everConnected := true, configured := false }

def closed (connection : Connection) : Connection :=
  { connection with connected := false }

def terminate (connection : Connection) : Connection :=
  { connection with connected := false, configured := true, terminated := true }

def markConfigured (connection : Connection) : Connection :=
  { connection with configured := true }

def isReleased (connection : Connection) : Bool :=
  !(connection.connected && !connection.configured && !connection.terminated)

def isClientSettled (connection : Connection) : Bool :=
  connection.everConnected || connection.terminated

end Connection

end Debuggee
