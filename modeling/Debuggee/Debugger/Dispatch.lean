import Debuggee.Debugger.Basic

/-!
What the debugger does with the messages of a client. Every request is answered once: by the
debugger itself, by the strategy, or with the reason why not. A request that needs a strategy
waits for one until the session ends.
-/

namespace Debuggee

inductive RequestFailure where
  | noStrategy
  | failed (causes : List String)
  | panicked (message : Option String)
  deriving DecidableEq, Repr

def RequestFailure.message : RequestFailure → String
  | .noStrategy => "debug session ended before Ansible attached"
  | .failed causes => ": ".intercalate causes
  | .panicked message => "panic: " ++ message.getD "<non-string panic payload>"

namespace Debugger

def setBreakpoints (debugger : Debugger) (arguments : SetBreakpointsArguments) :
    List Breakpoint × Debugger :=
  let clientPath := arguments.clientPath
  let (registry, reports) :=
    debugger.registry.replace clientPath (debugger.configuration.toRuntimePath clientPath)
      arguments.source arguments.requested arguments.sourceModified
  (reports, { debugger with registry := registry })

def responseTo (request : Request) : Outcome (Option Json) → Response
  | .answer body => .succeed request.seq request.command.name body
  | .failed causes =>
    .fail request.seq request.command.name (RequestFailure.failed causes).message
  | .panicked message =>
    .fail request.seq request.command.name (RequestFailure.panicked message).message

def respond (debugger : Debugger) (response : Response) : Debugger :=
  (debugger.send (.response response)).2

/-- Lets the strategy serve a request; none while the request has to wait for a strategy. -/
def forward (debugger : Debugger) (request : Request) : Option (Debugger × List Effect) :=
  match debugger.handoff.wait with
  | .waiting => none
  | .ended =>
    some (debugger.respond
      (.fail request.seq request.command.name RequestFailure.noStrategy.message), [])
  | .found strategy =>
    match strategy.react? request.command with
    | none => some (debugger, [])
    | some reaction =>
      let told := debugger.sendAll (reaction.events.map .event)
      some (told.respond (responseTo request reaction.outcome),
        [.asked strategy.name request.command])

def serve (debugger : Debugger) (request : Request) : Option (Debugger × List Effect) :=
  match request.command with
  | .configurationDone =>
    let answered := debugger.respond (.succeed request.seq request.command.name none)
    some ({ answered with connection := answered.connection.markConfigured }, [])
  | .setBreakpoints arguments =>
    let (reports, debugger) := debugger.setBreakpoints arguments
    some (debugger.respond
      (.withBody request.seq request.command.name (⟨reports⟩ : SetBreakpointsAnswer)), [])
  | _ => debugger.forward request

def configure (debugger : Debugger) (event : OutputEvent) : Debugger :=
  match DebugConfiguration.ofOutput? event with
  | none => debugger
  | some configuration => { debugger with configuration := configuration }

def dispatch (debugger : Debugger) : ClientMessage → Option (Debugger × List Effect)
  | .request request => debugger.serve request
  | .output event => some (debugger.configure event, [])

def reject (debugger : Debugger) (error : DecodeError) : Debugger :=
  match error.request? with
  | some (seq, command) => debugger.respond (.fail seq command error.message)
  | none => debugger

def receive (debugger : Debugger) (payload : Bytes) : Option (Debugger × List Effect) :=
  match ClientMessage.decode payload with
  | .ok message => debugger.dispatch message
  | .error error => some (debugger.reject error, [])

def receiveAll (debugger : Debugger) : List Bytes → Option (Debugger × List Effect)
  | [] => some (debugger, [])
  | payload :: payloads => do
    let (debugger, effects) ← debugger.receive payload
    let (debugger, later) ← debugger.receiveAll payloads
    some (debugger, effects ++ later)

end Debugger

end Debuggee
