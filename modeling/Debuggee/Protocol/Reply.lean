import Debuggee.Protocol.Answers
import Debuggee.Protocol.Events
import Debuggee.Protocol.Frame

/-!
Messages of the debuggee: responses to requests and events of its own. Their numbers are stamped
when they are sent. Bodies have their keys sorted.
-/

namespace Debuggee

structure Response where
  seq : Int64 := 0
  requestSeq : Int64
  success : Bool
  command : String
  message : Option String := none
  body : Option Json := none

namespace Response

def succeed (requestSeq : Int64) (command : String) (body : Option Json) : Response where
  requestSeq := requestSeq
  success := true
  command := command
  body := body

def withBody [HasLayout α] (requestSeq : Int64) (command : String) (body : α) : Response :=
  succeed requestSeq command (some (toJson body).sorted)

def fail (requestSeq : Int64) (command : String) (message : String) : Response where
  requestSeq := requestSeq
  success := false
  command := command
  message := some message

end Response

structure Event where
  seq : Int64 := 0
  event : String
  body : Option Json := none

namespace Event

def withBody [HasLayout α] (event : String) (body : α) : Event where
  event := event
  body := some (toJson body).sorted

def breakpointChanged (breakpoint : Breakpoint) : Event :=
  withBody "breakpoint" (⟨"changed", breakpoint⟩ : BreakpointEvent)

end Event

inductive ServerMessage where
  | response (response : Response)
  | event (event : Event)

namespace ServerMessage

def stamp (seq : Int64) : ServerMessage → ServerMessage
  | .response answer => .response { answer with seq := seq }
  | .event notice => .event { notice with seq := seq }

def name : ServerMessage → String
  | .response answer => answer.command
  | .event notice => notice.event

def toJson : ServerMessage → Json
  | .response answer =>
    .object <|
      [("seq", .integer answer.seq.toInt), ("type", .text "response"),
        ("request_seq", .integer answer.requestSeq.toInt),
        ("success", .boolean answer.success), ("command", .text answer.command)] ++
      (answer.message.map fun message => ("message", Json.text message)).toList ++
      (answer.body.map fun body => ("body", body)).toList
  | .event notice =>
    .object <|
      [("seq", .integer notice.seq.toInt), ("type", .text "event"),
        ("event", .text notice.event)] ++
      (notice.body.map fun body => ("body", body)).toList

def payload (message : ServerMessage) : Bytes :=
  message.toJson.render

def frame (message : ServerMessage) : Bytes :=
  Frame.write message.payload

def stampAll (seq : Int64) : List ServerMessage → List ServerMessage
  | [] => []
  | message :: messages => message.stamp seq :: stampAll (seq + 1) messages

def stream (messages : List ServerMessage) : Bytes :=
  (stampAll 1 messages).flatMap frame

end ServerMessage

end Debuggee
