import Debuggee.Debugger.Dispatch

/-!
The connection of a debugger, from its start to its end. Listening, it serves one client after
another until it is told to stop; dialling, it serves one. Whatever happens, who started it is
told once where it can be reached or why not, and at the end nothing of a session is left.
-/

namespace Debuggee

inductive Occurrence where
  | bound (outcome : Except TransportError Address)
  | reached (attempt : Attempt Nat)
  /-- Accepting or dialling a client failed, or was given up on being told to stop. -/
  | unreached (error : TransportError)
  | hungUp
  /-- Nothing of what the client of a session that is over has sent is left to be read. -/
  | readOut
  | cancel

inductive StartError where
  | alreadyStarted
  | timedOut
  | noAddress
  | transport (error : TransportError)
  deriving DecidableEq, Repr

def StartError.message : StartError → String
  | .alreadyStarted => "the debugger has already been started"
  | .timedOut => "timed out waiting for the debug socket address"
  | .noAddress => "the debugger thread exited before reporting a socket address"
  | .transport error => error.message

namespace Debugger

def finish (debugger : Debugger) : Debugger × List Effect :=
  let name := Bytes.ofString (Discovery.fileName debugger.pid)
  let directory :=
    if debugger.discoverable then
      debugger.directory.map fun entries => (Discovery.remove entries name).toOption.getD entries
    else debugger.directory
  ({ debugger with
      phase := .finished
      directory := directory
      queue := debugger.queue.deactivate.2
      connection := debugger.connection.terminate
      handoff := debugger.handoff.endSession },
    (debugger.handoff.strategy.map fun strategy => Effect.ended strategy.name).toList)

/-- Leaves a file that tells where the debugger listens; without one it serves all the same. -/
def advertise (debugger : Debugger) (options : StartOptions) (address : Address) : Debugger :=
  let info : ProcessInfo :=
    ⟨debugger.pid, address.host, address.port, address.isIpv6, options.wrapped,
      options.playbookFile⟩
  match Discovery.write debugger.directory info with
  | .ok entries => { debugger with directory := some entries, discoverable := true }
  | .error _ => debugger

def openSession (debugger : Debugger) (mode : SocketMode) : Debugger × List Effect :=
  ({ debugger with
      phase := .inSession mode
      handoff := debugger.handoff.beginSession
      queue := debugger.queue.activate
      connection := debugger.connection.opened },
    [.sessionOpened])

def closeSession (debugger : Debugger) (mode : SocketMode) : Debugger × List Effect :=
  let (dropped, queue) := debugger.queue.deactivate
  ({ debugger with
      phase := .leaving mode
      queue := queue
      connection := debugger.connection.closed
      handoff := debugger.handoff.endSession
      canceller := debugger.canceller.clear },
    [.sessionClosed dropped])

def listenOn (debugger : Debugger) : Debugger × List Effect :=
  if debugger.canceller.cancelled then debugger.finish
  else ({ debugger with phase := .listening }, [])

def goOn (debugger : Debugger) : SocketMode → Debugger × List Effect
  | .connect => debugger.finish
  | .listen => debugger.listenOn

def andThen (first : Debugger × List Effect) (later : Debugger → Debugger × List Effect) :
    Debugger × List Effect :=
  let (debugger, effects) := later first.1
  (debugger, first.2 ++ effects)

def meet (debugger : Debugger) (mode : SocketMode) (attempt : Attempt Nat) :
    Debugger × List Effect :=
  if debugger.canceller.cancelled then debugger.finish
  else
    let (outcome, canceller) := debugger.canceller.establish attempt
    let debugger := { debugger with canceller := canceller }
    match outcome with
    | .ok _ => debugger.openSession mode
    | .error _ => debugger.goOn mode

/-- What the connection makes of an occurrence; those that cannot befall it change nothing. -/
def step (debugger : Debugger) (occurrence : Occurrence) : Debugger × List Effect :=
  match debugger.phase, occurrence with
  | _, .cancel => ({ debugger with canceller := debugger.canceller.cancel }, [])
  | .binding, .bound (.ok address) =>
    let options := debugger.options.getD ⟨.listen, "", 0, false, none⟩
    ({ debugger.advertise options address with phase := .listening }, [.address (.ok address)])
  | .binding, .bound (.error error) =>
    andThen (debugger, [.address (.error error)]) finish
  | .dialling, .reached attempt => debugger.meet .connect attempt
  | .listening, .reached attempt => debugger.meet .listen attempt
  | .dialling, .unreached _ => debugger.finish
  | .listening, .unreached _ => debugger.listenOn
  | .inSession mode, .hungUp => debugger.closeSession mode
  | .leaving mode, .readOut => debugger.goOn mode
  | _, _ => (debugger, [])

def run (debugger : Debugger) : List Occurrence → Debugger × List Effect
  | [] => (debugger, [])
  | occurrence :: occurrences =>
    andThen (debugger.step occurrence) fun debugger => debugger.run occurrences

/--
Starts the connection, which is possible once. A debugger that dials gives out the address it was
told of at once; one that listens has none before it is bound.
-/
def start (debugger : Debugger) (options : StartOptions) :
    Except StartError (Debugger × List Effect) :=
  if debugger.options.isSome then .error .alreadyStarted
  else
    let debugger := { debugger with options := some options }
    match options.mode with
    | .listen => .ok ({ debugger with phase := .binding }, [])
    | .connect =>
      .ok ({ debugger with phase := .dialling },
        [.address (.ok (Address.nominal options.host options.port))])

def shutdown (debugger : Debugger) : Debugger × List Effect :=
  if debugger.options.isNone then (debugger, [])
  else debugger.run [.cancel, .hungUp, .readOut, .unreached .cancelled]

end Debugger

end Debuggee
