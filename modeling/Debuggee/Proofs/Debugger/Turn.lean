import Debuggee.Proofs.Debugger.Handling
import Debuggee.Proofs.Request.Reader

/-!
What a debugger does about the payloads that it receives. Each request that names a command is
answered by one response, which tells how the command ended, and nothing else is answered. What the
strategy sends while it deals with a command comes before the response.
-/

namespace Debuggee

def Handoff.questions (handoff : Handoff Strategy) (command : Command) : List Effect :=
  if command.needsStrategy then
    handoff.strategy.toList.map fun strategy => .asked strategy.name command
  else []

/--
A payload, and what a request in it finds when it asks for the strategy. What a strategy does may
change from one turn to the next.
-/
structure Turn where
  handoff : Handoff Strategy
  payload : Bytes

namespace Turn

def command? (turn : Turn) : Option Command :=
  match ClientMessage.decode turn.payload with
  | .ok (.request request) => some request.command
  | _ => none

def isAnswerable (turn : Turn) : Bool :=
  (ClientMessage.asked? turn.payload).isSome

def questions (turn : Turn) : List Effect :=
  turn.command?.toList.flatMap turn.handoff.questions

structure Answers (turn : Turn) (events : List Event) (response : Response) : Prop where
  echoed : ∃ envelope, ClientMessage.asked? turn.payload = some (envelope, response.command) ∧
    response.requestSeq = envelope.seq
  handled : ∀ command, turn.command? = some command → ∃ outcome,
    turn.handoff.Handles command events outcome ∧ response.Tells outcome
  refused : ∀ error, ClientMessage.decode turn.payload = .error error →
    events = [] ∧ response.message = some error.message
  succeeded : response.success = true ↔ response.command ∈ Command.names ∧
    ∃ command, turn.command? = some command ∧ turn.handoff.Serves command
  failed : response.success = false → response.message.isSome = true ∧ response.body = none

inductive Brings (turn : Turn) : List ServerMessage → Prop where
  | nothing (unanswerable : turn.isAnswerable = false) : Brings turn []
  | answer {events : List Event} {response : Response} (answerable : turn.isAnswerable = true)
      (answers : turn.Answers events response) :
      Brings turn (events.map .event ++ [.response response])

variable {turn : Turn} {envelope : Envelope} {events : List Event} {response : Response}

theorem answers_of_handles {command : Command} {outcome : Outcome (Option Json)}
    (asked : ClientMessage.asked? turn.payload = some (envelope, command.name))
    (known : command.name ∈ Command.names) (command? : turn.command? = some command)
    (handles : turn.handoff.Handles command events outcome) :
    turn.Answers events (Debugger.responseTo ⟨envelope.seq, command⟩ outcome) := by
  have tells := Debugger.tells_responseTo ⟨envelope.seq, command⟩ outcome
  obtain ⟨requestSeq, named⟩ := Debugger.echo_responseTo ⟨envelope.seq, command⟩ outcome
  constructor
  · exact ⟨envelope, by rw [named, asked], requestSeq⟩
  · intro other same
    rw [command?, Option.some.injEq] at same
    exact ⟨outcome, same ▸ handles, tells⟩
  · intro error refused
    rw [Turn.command?, refused] at command?
    contradiction
  · rw [tells.success_iff, ← handles.serves_iff, named, command?]
    simp [known]
  · exact tells.of_failure

theorem answers_of_refused {name : String} {error : DecodeError}
    (asked : ClientMessage.asked? turn.payload = some (envelope, name))
    (refused : ClientMessage.decode turn.payload = .error error) :
    turn.Answers [] (.fail envelope.seq name error.message) := by
  have command? : turn.command? = none := by
    rw [Turn.command?, refused]
  constructor
  · exact ⟨envelope, asked, rfl⟩
  · intro command found
    rw [command?] at found
    contradiction
  · intro other again
    rw [refused, Except.error.injEq] at again
    exact ⟨rfl, by rw [← again]; rfl⟩
  · refine iff_of_false Bool.false_ne_true ?_
    rintro ⟨_, command, found, _⟩
    rw [command?] at found
    contradiction
  · exact fun _ => ⟨rfl, rfl⟩

theorem Answers.events_eq_nil (answers : turn.Answers events response)
    (silent : ∀ strategy, turn.handoff.strategy = some strategy → strategy.IsSilent) :
    events = [] := by
  obtain ⟨envelope, asked, _⟩ := answers.echoed
  have decoded := ClientMessage.decode_of_asked asked
  cases outcome : Command.decode envelope.seq response.command envelope.arguments with
  | ok command =>
      rw [outcome] at decoded
      obtain ⟨_, handles, _⟩ := answers.handled command (by rw [command?, decoded]; rfl)
      exact handles.events_eq_nil silent
  | error error =>
      rw [outcome] at decoded
      exact (answers.refused error decoded).1

theorem exists_responses {turns : List Turn} {parts : List (List ServerMessage)}
    (brings : List.Forall₂ Turn.Brings turns parts)
    (silent : ∀ turn ∈ turns, ∀ strategy, turn.handoff.strategy = some strategy →
      strategy.IsSilent) :
    ∃ responses : List Response, parts.flatten = responses.map .response ∧
      List.Forall₂ (fun turn response => turn.Answers [] response)
        (turns.filter Turn.isAnswerable) responses := by
  induction brings with
  | nil => exact ⟨[], rfl, .nil⟩
  | @cons turn part turns parts first rest ih =>
      obtain ⟨responses, flat, answered⟩ :=
        ih fun other member => silent other (List.mem_cons_of_mem turn member)
      cases first with
      | nothing unanswerable =>
          refine ⟨responses, flat, ?_⟩
          rw [List.filter_cons_of_neg (by simp [unanswerable])]
          exact answered
      | @answer events response answerable answers =>
          have none := answers.events_eq_nil (silent turn (by simp))
          refine ⟨response :: responses, by simp [none, flat], ?_⟩
          rw [List.filter_cons_of_pos answerable]
          exact .cons (none ▸ answers) answered

end Turn

namespace Debugger

def take (debugger : Debugger) (turn : Turn) : Option (Debugger × List Effect) :=
  { debugger with handoff := turn.handoff }.receive turn.payload

def takeAll (debugger : Debugger) : List Turn → Option (Debugger × List Effect)
  | [] => some (debugger, [])
  | turn :: turns => do
    let (debugger, effects) ← debugger.take turn
    let (debugger, later) ← debugger.takeAll turns
    some (debugger, effects ++ later)

def HasSent (debugger after : Debugger) (messages : List ServerMessage) : Prop :=
  after.queue = { debugger.queue with pending := debugger.queue.pending ++ messages }

variable {debugger : Debugger}

theorem hasSent_nil (debugger : Debugger) : debugger.HasSent debugger [] := by
  simp [HasSent]

theorem HasSent.active {after : Debugger} {messages : List ServerMessage}
    (sent : debugger.HasSent after messages) : after.queue.active = debugger.queue.active := by
  rw [sent]

theorem HasSent.append {middle after : Debugger} {messages later : List ServerMessage}
    (first : debugger.HasSent middle messages) (second : middle.HasSent after later) :
    debugger.HasSent after (messages ++ later) := by
  rw [HasSent] at first second ⊢
  rw [second, first, List.append_assoc]

theorem send_eq (active : debugger.queue.active = true) (message : ServerMessage) :
    (debugger.send message).2 =
      { debugger with
        queue := { debugger.queue with pending := debugger.queue.pending ++ [message] } } := by
  simp [send, SendQueue.push, active]

theorem sendAll_eq (active : debugger.queue.active = true) (messages : List ServerMessage) :
    debugger.sendAll messages =
      { debugger with
        queue := { debugger.queue with pending := debugger.queue.pending ++ messages } } := by
  induction messages generalizing debugger with
  | nil => simp [sendAll]
  | cons message messages ih =>
      have rest : debugger.sendAll (message :: messages) =
          (debugger.send message).2.sendAll messages := rfl
      rw [rest, ih (by rw [send_eq active]; exact active), send_eq active]
      simp

theorem hasSent_respond (active : debugger.queue.active = true) (response : Response) :
    debugger.HasSent (debugger.respond response) [.response response] := by
  rw [HasSent, respond, send_eq active]

theorem hasSent_configure (event : OutputEvent) :
    debugger.HasSent (debugger.configure event) [] := by
  unfold configure
  split
  · exact hasSent_nil debugger
  · simp [HasSent]

theorem configure_handoff (event : OutputEvent) :
    (debugger.configure event).handoff = debugger.handoff := by
  unfold configure
  split <;> rfl

section Receive

variable {request : Request}
variable (active : debugger.queue.active = true)
variable (settled : debugger.handoff.wait ≠ .waiting)

include active settled

/-- The strategy is called once: what it sends is queued, and then what its end is told as. -/
theorem forward_sends (needed : request.command.needsStrategy = true) :
    ∃ after events outcome,
      debugger.forward request = some (after, debugger.handoff.questions request.command) ∧
      debugger.HasSent after (events.map .event ++ [.response (responseTo request outcome)]) ∧
      debugger.handoff.Handles request.command events outcome ∧
      after.handoff = debugger.handoff := by
  cases attached : debugger.handoff.strategy with
  | none =>
      have ended : debugger.handoff.wait = .ended := by
        unfold Handoff.wait at settled ⊢
        rw [attached] at settled ⊢
        simp only at settled ⊢
        split
        · rfl
        · rename_i waiting
          rw [if_neg waiting] at settled
          contradiction
      refine ⟨_, [], _, ?_, hasSent_respond active _, .vacant needed attached, rfl⟩
      simp only [forward, ended, Handoff.questions, attached]
      simp
      rfl
  | some strategy =>
      have found : debugger.handoff.wait = .found strategy := by
        rw [Handoff.wait, attached]
      obtain ⟨α, reaction, body, calls⟩ := strategy.exists_calls needed
      have told := sendAll_eq active (reaction.events.map .event)
      have still : (debugger.sendAll (reaction.events.map .event)).queue.active = true := by
        rw [told]
        exact active
      have sent : debugger.HasSent (debugger.sendAll (reaction.events.map .event))
          (reaction.events.map .event) := by rw [HasSent, told]
      refine ⟨_, reaction.events, reaction.outcome.map body, ?_,
        sent.append (hasSent_respond still _), Handoff.handles_of_calls attached calls, ?_⟩
      · simp only [forward, found, calls.react?, Handoff.questions, attached, needed]
        rfl
      · rw [respond, send_eq still, told]

theorem serve_sends (request : Request) :
    ∃ after events outcome,
      debugger.serve request = some (after, debugger.handoff.questions request.command) ∧
      debugger.HasSent after (events.map .event ++ [.response (responseTo request outcome)]) ∧
      debugger.handoff.Handles request.command events outcome ∧
      after.handoff = debugger.handoff := by
  obtain ⟨seq, command⟩ := request
  cases command with
  | configurationDone =>
      exact ⟨_, [], .answer none, rfl, hasSent_respond active _, .configurationDone, rfl⟩
  | setBreakpoints arguments =>
      have replaced : (debugger.setBreakpoints arguments).2.queue.active = true := active
      exact ⟨_, [], .answer (writtenBody _), rfl, hasSent_respond replaced _,
        .setBreakpoints arguments (debugger.setBreakpoints arguments).1, rfl⟩
  | _ => exact forward_sends active settled rfl

/-- What one turn brings: the answer to its request, if it has one, and nothing else. -/
theorem receive_brings (turn : Turn) (own : debugger.handoff = turn.handoff) :
    ∃ after messages, debugger.receive turn.payload = some (after, turn.questions) ∧
      debugger.HasSent after messages ∧ turn.Brings messages ∧
      after.handoff = debugger.handoff := by
  cases asked : ClientMessage.asked? turn.payload with
  | none =>
      have unanswerable : turn.isAnswerable = false := by rw [Turn.isAnswerable, asked]; rfl
      rcases ClientMessage.decode_of_unasked asked with ⟨event, decoded⟩ | ⟨error, refused, unasked⟩
      · refine ⟨debugger.configure event, [], ?_, hasSent_configure event, .nothing unanswerable,
          configure_handoff event⟩
        simp only [receive, decoded, dispatch, Turn.questions, Turn.command?]
        rfl
      · refine ⟨debugger, [], ?_, hasSent_nil debugger, .nothing unanswerable, rfl⟩
        simp only [receive, refused, reject, unasked, Turn.questions, Turn.command?]
        rfl
  | some found =>
      obtain ⟨envelope, name⟩ := found
      have answerable : turn.isAnswerable = true := by rw [Turn.isAnswerable, asked]; rfl
      have decoded := ClientMessage.decode_of_asked asked
      cases outcome : Command.decode envelope.seq name envelope.arguments with
      | ok command =>
          rw [outcome] at decoded
          obtain ⟨named, known⟩ := Command.name_of_decode outcome
          have command? : turn.command? = some command := by
            rw [Turn.command?, decoded]
            rfl
          obtain ⟨after, events, ended, served, sent, handles, kept⟩ :=
            serve_sends active settled ⟨envelope.seq, command⟩
          refine ⟨after, _, ?_, sent, .answer answerable ?_, kept⟩
          · simp only [receive, decoded, Except.map, dispatch, served, Turn.questions, command?,
              own]
            simp
          · rw [own] at handles
            rw [← named] at asked known
            exact Turn.answers_of_handles asked known command? handles
      | error error =>
          rw [outcome] at decoded
          have answers := Turn.answers_of_refused asked decoded
          refine ⟨_, _, ?_, hasSent_respond active _, .answer answerable answers, rfl⟩
          simp only [receive, decoded, Except.map, reject, Command.request?_of_decode outcome,
            Turn.questions, Turn.command?]
          rfl

theorem receiveAll_eq_takeAll (payloads : List Bytes) :
    debugger.receiveAll payloads = debugger.takeAll (payloads.map (Turn.mk debugger.handoff)) := by
  induction payloads generalizing debugger with
  | nil => rfl
  | cons payload payloads ih =>
      obtain ⟨after, messages, received, sent, _, kept⟩ :=
        receive_brings active settled ⟨debugger.handoff, payload⟩ rfl
      have taken : debugger.take ⟨debugger.handoff, payload⟩ = debugger.receive payload := rfl
      have later := ih (sent.active.trans active) (by rwa [kept])
      rw [kept] at later
      simp only [receiveAll, List.map_cons, takeAll, taken, received, Option.bind_eq_bind,
        Option.bind_some, later]

end Receive

theorem takeAll_brings (active : debugger.queue.active = true) {turns : List Turn}
    (settled : ∀ turn ∈ turns, turn.handoff.wait ≠ .waiting) :
    ∃ after parts, debugger.takeAll turns = some (after, turns.flatMap Turn.questions) ∧
      debugger.HasSent after parts.flatten ∧ List.Forall₂ Turn.Brings turns parts := by
  induction turns generalizing debugger with
  | nil => exact ⟨debugger, [], rfl, hasSent_nil debugger, .nil⟩
  | cons turn turns ih =>
      -- The strategy may have changed since the last turn; the queue has not.
      let ready : Debugger := { debugger with handoff := turn.handoff }
      have readyActive : ready.queue.active = true := active
      obtain ⟨middle, part, taken, sent, brings, _⟩ :=
        receive_brings readyActive (settled turn (by simp)) turn rfl
      obtain ⟨after, parts, rest, sentLater, bringsLater⟩ :=
        ih (sent.active.trans readyActive)
          (fun other member => settled other (List.mem_cons_of_mem turn member))
      refine ⟨after, part :: parts, ?_, HasSent.append sent sentLater, .cons brings bringsLater⟩
      have here : debugger.take turn = some (middle, turn.questions) := taken
      simp only [takeAll, here, Option.bind_eq_bind, Option.bind_some, rest, List.flatMap_cons]

/--
While a session is open, and no request has to wait for a strategy, each payload that is a request
and names a command adds one response to the queue, and every other payload adds nothing. A command
calls its method of the strategy once: what the method sends comes right before the response. If
the strategies send nothing, the responses stand alone, in the order of the payloads. A strategy
that stays the same is called by `receiveAll`.
-/
theorem answers_in_order (debugger : Debugger) (turns : List Turn)
    (active : debugger.queue.active = true)
    (settled : ∀ turn ∈ turns, turn.handoff.wait ≠ .waiting) :
    (∃ after parts, debugger.takeAll turns = some (after, turns.flatMap Turn.questions) ∧
      after.queue = { debugger.queue with
        pending := debugger.queue.pending ++ parts.flatten } ∧
      List.Forall₂ Turn.Brings turns parts ∧
      ((∀ turn ∈ turns, ∀ strategy, turn.handoff.strategy = some strategy →
          strategy.IsSilent) →
        ∃ responses : List Response, parts.flatten = responses.map .response ∧
          List.Forall₂ (fun turn response => turn.Answers [] response)
            (turns.filter Turn.isAnswerable) responses)) ∧
    ∀ payloads, turns = payloads.map (Turn.mk debugger.handoff) →
      debugger.receiveAll payloads = debugger.takeAll turns := by
  constructor
  · obtain ⟨after, parts, taken, sent, brings⟩ := takeAll_brings active settled
    exact ⟨after, parts, taken, sent, brings, Turn.exists_responses brings⟩
  · intro payloads same
    cases payloads with
    | nil =>
        rw [same]
        rfl
    | cons payload payloads =>
        have first : (⟨debugger.handoff, payload⟩ : Turn) ∈ turns := by simp [same]
        rw [same]
        exact receiveAll_eq_takeAll active (settled _ first) (payload :: payloads)

theorem answers_in_order_of_panic :
    let strategy : Strategy := { Strategy.helpless "run" with threads := ⟨[], .panicked none⟩ }
    let debugger : Debugger := { queue := { active := true }, handoff := ⟨some strategy, false⟩ }
    let payloads := ["[", "\x7b\"type\":\"request\",\"command\":\"threads\"\x7d"].map Bytes.ofString
    ∃ (after : Debugger) (response : Response),
      debugger.receiveAll payloads = some (after, [.asked "run" .threads]) ∧
      after.queue.pending = [.response response] ∧
      response.requestSeq = 0 ∧ response.command = "threads" ∧ response.success = false ∧
      response.message = some "panic: <non-string panic payload>" ∧ response.body = none := by
  intro strategy debugger payloads
  have silent : strategy.IsSilent := by
    intro α command reaction body calls
    cases calls <;> rfl
  have readable : fromText payloads[1] =
      .ok ({ typeName := "request", command := some "threads" } : Envelope) := by cbv
  have junk : (Turn.mk debugger.handoff payloads[0]).isAnswerable = false ∧
      (Turn.mk debugger.handoff payloads[0]).command? = none := ⟨by cbv, by cbv⟩
  have asked : ClientMessage.asked? payloads[1] =
      some ({ typeName := "request", command := some "threads" }, "threads") := by
    simp only [ClientMessage.asked?, readable]
    rfl
  have answerable : (Turn.mk debugger.handoff payloads[1]).isAnswerable = true := by
    rw [Turn.isAnswerable, asked]
    rfl
  have command? : (Turn.mk debugger.handoff payloads[1]).command? = some .threads := by
    simp only [Turn.command?, ClientMessage.decode_of_asked asked]
    rfl
  have turns : payloads.map (Turn.mk debugger.handoff) =
      [⟨debugger.handoff, payloads[0]⟩, ⟨debugger.handoff, payloads[1]⟩] := rfl
  have questions : (payloads.map (Turn.mk debugger.handoff)).flatMap Turn.questions =
      [.asked "run" .threads] := by
    rw [turns]
    simp only [List.flatMap_cons, List.flatMap_nil, Turn.questions, junk.2, command?]
    rfl
  obtain ⟨⟨after, parts, taken, queue, _, alone⟩, same⟩ :=
    answers_in_order debugger (payloads.map (Turn.mk debugger.handoff)) rfl
      (by simp [debugger, Handoff.wait])
  obtain ⟨responses, flat, answered⟩ := alone (by
    intro turn member other attached
    obtain ⟨payload, _, made⟩ := List.mem_map.mp member
    rw [← made] at attached
    rw [← Option.some.inj attached]
    exact silent)
  rw [turns, List.filter_cons_of_neg (by simp [junk.1]), List.filter_cons_of_pos answerable,
    List.filter_nil] at answered
  obtain ⟨response, others, answers, rest, rfl⟩ := List.forall₂_cons_left_iff.mp answered
  cases rest
  obtain ⟨outcome, handles, tells⟩ := answers.handled .threads command?
  have panicked : some ⟨[], .panicked none⟩ = some (⟨[], outcome⟩ : Reaction _) :=
    handles.react? rfl rfl
  cases panicked
  obtain ⟨failure, body, message⟩ := tells
  obtain ⟨envelope, again, number⟩ := answers.echoed
  rw [asked, Option.some.injEq, Prod.mk.injEq] at again
  obtain ⟨rfl, command⟩ := again
  refine ⟨after, response, ?_, ?_, number, command.symm, failure, message, body⟩
  · rw [same payloads rfl, taken, questions]
  · rw [queue, flat]
    rfl

end Debugger

end Debuggee
