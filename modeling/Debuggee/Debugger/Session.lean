import Debuggee.Debugger.Lifecycle

/-!
One session on a stream: frames are read and dealt with until the stream ends or cannot be read,
and what is queued is written in numbered frames.
-/

namespace Debuggee.Debugger

/--
Deals with the frames of a stream, then tells the writer to stop. None while a request has to
wait for a strategy.
-/
def receiveStream (debugger : Debugger) (ending : Frame.Ending) (octets : Bytes) :
    Option (Debugger × List Effect) :=
  match _ : Frame.read ending octets with
  | .finished | .failed _ _ => some ({ debugger with queue := debugger.queue.close }, [])
  | .frame payload rest => do
    let (debugger, effects) ← debugger.receive payload
    let (debugger, later) ← debugger.receiveStream ending rest
    some (debugger, effects ++ later)
termination_by octets.length
decreasing_by exact Frame.read_frame_length (by assumption)

def drain (debugger : Debugger) : List ServerMessage × Debugger :=
  let queue := debugger.queue
  (queue.pending, { debugger with queue := { queue with pending := [], inFlight := false } })

/--
A session with a client that sends these octets and then hangs up: what it is sent, and what the
debugger has become.
-/
def converse (debugger : Debugger) (attempt : Attempt Nat) (octets : Bytes) :
    Option (Bytes × Debugger × List Effect) := do
  let (opened, first) := debugger.step (.reached attempt)
  let (served, effects) ← opened.receiveStream .closed octets
  let (messages, served) := served.drain
  let (closed, last) := served.run [.hungUp, .readOut]
  some (ServerMessage.stream messages, closed, first ++ effects ++ last)

end Debuggee.Debugger
