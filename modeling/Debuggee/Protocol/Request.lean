import Debuggee.Protocol.Arguments
import Debuggee.Protocol.Events
import Debuggee.Text.Redaction

/-!
Messages of the client: requests, and the one event that matters to the debuggee. Decoding goes
from the text of a message; encoding is what a client does. What a decoding error says never
quotes the values of a message.
-/

namespace Debuggee

inductive Command where
  | configurationDone
  | continueRun (arguments : ContinueArguments)
  | evaluate (arguments : EvaluateArguments)
  | next (arguments : NextArguments)
  | scopes (arguments : ScopesArguments)
  | setBreakpoints (arguments : SetBreakpointsArguments)
  | setVariable (arguments : SetVariableArguments)
  | stackTrace (arguments : StackTraceArguments)
  | stepIn (arguments : StepInArguments)
  | stepOut (arguments : StepOutArguments)
  | threads
  | variables (arguments : VariablesArguments)
  deriving DecidableEq

namespace Command

def name : Command → String
  | .configurationDone => "configurationDone"
  | .continueRun _ => "continue"
  | .evaluate _ => "evaluate"
  | .next _ => "next"
  | .scopes _ => "scopes"
  | .setBreakpoints _ => "setBreakpoints"
  | .setVariable _ => "setVariable"
  | .stackTrace _ => "stackTrace"
  | .stepIn _ => "stepIn"
  | .stepOut _ => "stepOut"
  | .threads => "threads"
  | .variables _ => "variables"

def arguments? : Command → Option Json
  | .configurationDone => none
  | .continueRun arguments => some (toJson arguments)
  | .evaluate arguments => some (toJson arguments)
  | .next arguments => some (toJson arguments)
  | .scopes arguments => some (toJson arguments)
  | .setBreakpoints arguments => some (toJson arguments)
  | .setVariable arguments => some (toJson arguments)
  | .stackTrace arguments => some (toJson arguments)
  | .stepIn arguments => some (toJson arguments)
  | .stepOut arguments => some (toJson arguments)
  | .threads => none
  | .variables arguments => some (toJson arguments)

end Command

structure Request where
  seq : Int64
  command : Command
  deriving DecidableEq

inductive ClientMessage where
  | request (request : Request)
  | output (event : OutputEvent)

inductive DecodeError where
  | unreadable (error : LayoutError)
  | noCommand
  | unsupportedType (name : String)
  | unsupportedCommand (seq : Int64) (command : String)
  | invalidArguments (seq : Int64) (command : String) (error : LayoutError)
  | unsupportedEvent (event : String)
  deriving DecidableEq

namespace DecodeError

def message : DecodeError → String
  | .unreadable error => "malformed DAP message: " ++ Text.redact error.message
  | .noCommand => "malformed DAP message: request is missing `command`"
  | .unsupportedType name => "unsupported DAP message type " ++ Text.quoted name
  | .unsupportedCommand _ command => "unsupported request command " ++ Text.quoted command
  | .invalidArguments _ command error =>
    "invalid arguments for " ++ Text.quoted command ++ ": " ++ Text.redact error.message
  | .unsupportedEvent event => "unsupported event " ++ Text.quoted event

/-- The number and command of the request at fault, if the client waits for an answer to it. -/
def request? : DecodeError → Option (Int64 × String)
  | .unsupportedCommand seq command => some (seq, command)
  | .invalidArguments seq command _ => some (seq, command)
  | .unreadable _ | .noCommand | .unsupportedType _ | .unsupportedEvent _ => none

end DecodeError

structure Envelope where
  seq : Int64 := 0
  typeName : String
  command : Option String := none
  arguments : Option Json := none
  event : Option String := none
  body : Option Json := none

def Envelope.layout : Layout Envelope :=
  .record "RawMessage" false
    (.cons (.defaulted "seq" .integer 0) <|
      .cons (.required "type" .text) <|
      .cons (.optional "command" .text) <|
      .cons (.optional "arguments" .anything) <|
      .cons (.optional "event" .text) <|
      .cons (.optional "body" .anything) <|
      .nil)
    (fun (seq, typeName, command, arguments, event, body, _) =>
      ⟨seq, typeName, command, arguments, event, body⟩)
    (fun value =>
      (value.seq, value.typeName, value.command, value.arguments, value.event, value.body, ()))
    (fun _ => rfl)

instance : HasLayout Envelope := ⟨Envelope.layout⟩

def orEmpty (data : Option Json) : Json :=
  data.getD (.object [])

namespace Command

def decode (seq : Int64) (name : String) (data : Option Json) : Except DecodeError Command :=
  let read {α : Type} [HasLayout α] (command : α → Command) : Except DecodeError Command :=
    match fromJson (orEmpty data) with
    | .ok arguments => .ok (command arguments)
    | .error error => .error (.invalidArguments seq name error)
  match name with
  | "configurationDone" => .ok .configurationDone
  | "continue" => read .continueRun
  | "evaluate" => read .evaluate
  | "next" => read .next
  | "scopes" => read .scopes
  | "setBreakpoints" => read .setBreakpoints
  | "setVariable" => read .setVariable
  | "stackTrace" => read .stackTrace
  | "stepIn" => read .stepIn
  | "stepOut" => read .stepOut
  | "threads" => .ok .threads
  | "variables" => read .variables
  | _ => .error (.unsupportedCommand seq name)

end Command

namespace ClientMessage

def ofEnvelope (envelope : Envelope) : Except DecodeError ClientMessage :=
  match envelope.typeName with
  | "request" =>
    match envelope.command with
    | none => .error .noCommand
    | some name => do
      let command ← Command.decode envelope.seq name envelope.arguments
      .ok (.request ⟨envelope.seq, command⟩)
  | "event" =>
    let event := envelope.event.getD ""
    if event = "output" then
      match fromJson (orEmpty envelope.body) with
      | .ok body => .ok (.output body)
      | .error error => .error (.unreadable error)
    else .error (.unsupportedEvent event)
  | other => .error (.unsupportedType other)

def decode (payload : Bytes) : Except DecodeError ClientMessage :=
  match fromText payload with
  | .ok envelope => ofEnvelope envelope
  | .error error => .error (.unreadable error)

def envelope : ClientMessage → Envelope
  | .request asked =>
    { seq := asked.seq, typeName := "request", command := some asked.command.name,
      arguments := asked.command.arguments? }
  | .output told =>
    { typeName := "event", event := some "output", body := some (toJson told) }

def encode (message : ClientMessage) : Bytes :=
  toText message.envelope

end ClientMessage

end Debuggee
