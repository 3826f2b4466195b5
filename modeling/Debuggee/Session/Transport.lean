import Debuggee.Address

/-!
Sockets, as far as a debuggee depends on how they fare: binding and dialling, and the canceller,
which knows the one socket that is in use and shuts it down when the debuggee is to stop.
-/

namespace Debuggee

inductive TransportError where
  | cancelled
  | unresolved (place : String)
  | bindFailed (place reason : String)
  | connectFailed (place reason : String)
  | failed (reason : String)
  deriving DecidableEq, Repr

namespace TransportError

def message : TransportError → String
  | .cancelled => "operation cancelled"
  | .unresolved place => "could not resolve " ++ place
  | .bindFailed place reason => "failed to bind " ++ place ++ ": " ++ reason
  | .connectFailed place reason => "failed to connect to " ++ place ++ ": " ++ reason
  | .failed reason => reason

end TransportError

namespace Transport

def place (host : String) (port : UInt16) : String :=
  host ++ ":" ++ toString port.toNat

/-- Names of hosts end at a character that no host has. -/
def isResolvable (host : String) : Bool :=
  !host.toList.contains (Char.ofNat 0)

/-- Listens at a port, or at the free port that the system has if zero is asked for. -/
def bind (host : String) (port free : UInt16) (taken : Bool) : Except TransportError Address :=
  if !isResolvable host then .error (.unresolved (place host port))
  else if taken then
    .error (.bindFailed (place host port) "Address already in use (os error 98)")
  else .ok (Address.nominal host (if port = 0 then free else port))

def unreachable (host : String) (port : UInt16) : TransportError :=
  if !isResolvable host then .unresolved (place host port)
  else .connectFailed (place host port) "Network is unreachable (os error 101)"

end Transport

structure Canceller (σ : Type) where
  cancelled : Bool := false
  socket : Option σ := none
  /-- The sockets that were shut down, the last one first. -/
  stopped : List σ := []
  deriving DecidableEq, Repr

namespace Canceller

def cancel (canceller : Canceller σ) : Canceller σ :=
  { canceller with
    cancelled := true
    stopped := canceller.socket.toList ++ canceller.stopped }

/-- Makes a socket the one in use; `prepared` tells whether a second handle for it was to be had. -/
def register (canceller : Canceller σ) (socket : σ) (prepared : Except String Unit) :
    Except TransportError (Canceller σ) :=
  if canceller.cancelled then .error .cancelled
  else
    match prepared with
    | .error reason => .error (.failed reason)
    | .ok _ => .ok { canceller with socket := some socket }

def clear (canceller : Canceller σ) : Canceller σ :=
  { canceller with socket := none }

end Canceller

structure Attempt (σ : Type) where
  socket : σ
  setUp : Except String Unit := .ok ()
  handle : Except String Unit := .ok ()
  cancelledMeanwhile : Bool := false
  handshake : Except String Unit := .ok ()

/--
Makes a socket ready for a session. It is registered before the handshake, which may block on the
client, and stays registered only if all goes well.
-/
def Canceller.establish (canceller : Canceller σ) (attempt : Attempt σ) :
    Except TransportError Unit × Canceller σ :=
  match attempt.setUp with
  | .error reason => (.error (.failed reason), canceller)
  | .ok _ =>
    match canceller.register attempt.socket attempt.handle with
    | .error error => (.error error, canceller)
    | .ok registered =>
      let canceller := if attempt.cancelledMeanwhile then registered.cancel else registered
      match attempt.handshake, canceller.cancelled with
      | .ok _, false => (.ok (), canceller)
      | _, true => (.error .cancelled, canceller.clear)
      | .error reason, false => (.error (.failed reason), canceller.clear)

end Debuggee
