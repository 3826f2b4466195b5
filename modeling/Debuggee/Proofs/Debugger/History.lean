import Debuggee.Debugger.Attach
import Mathlib

/-!
Histories of a debugger: what its threads do to it, in any order, and what one of these actions can
change. Only its start and what befalls its connection lead from one phase to another; the client
and the run may talk, attach strategies and detach them in between, and change nothing about that.
-/

namespace Debuggee

def Phase.isOpen : Phase → Bool
  | .inSession _ => true
  | _ => false

def Phase.hasReader : Phase → Bool
  | .inSession _ => true
  | .leaving _ => true
  | _ => false

def SocketMode.awaiting : SocketMode → Phase
  | .connect => .dialling
  | .listen => .listening

@[simp]
theorem SocketMode.isOpen_awaiting (mode : SocketMode) : mode.awaiting.isOpen = false := by
  cases mode <;> rfl

@[simp]
theorem SocketMode.awaiting_ne_finished (mode : SocketMode) : mode.awaiting ≠ .finished := by
  cases mode <;> simp [awaiting]

structure SendQueue.IsIdle (queue : SendQueue α) : Prop where
  inactive : queue.active = false
  written : queue.inFlight = false
  empty : queue.pending = []

def Occurrence.stops : Occurrence → Bool
  | .cancel => true
  | .reached attempt => attempt.cancelledMeanwhile
  | _ => false

namespace Debugger

inductive Action where
  | start (options : StartOptions)
  | befall (occurrence : Occurrence)
  | receive (payload : Bytes)
  | dispatch (message : ClientMessage)
  | close
  | next (cancelled : Bool)
  | written
  | send (message : ServerMessage)
  | register (path : String) (line : Int64) (kind : LineKind)
  | enter (strategy : Strategy)
  | takePlace
  | release
  | leave (name : String)

def Action.isAside : Action → Bool
  | .start _ => false
  | .befall _ => false
  | _ => true

def Action.attaches : Action → Bool
  | .enter _ => true
  | .takePlace => true
  | .release => true
  | .leave _ => true
  | _ => false

/-- A request that has to wait for a strategy changes nothing yet. -/
def perform (debugger : Debugger) : Action → Debugger × List Effect
  | .start options => (debugger.start options).toOption.getD (debugger, [])
  | .befall occurrence => debugger.step occurrence
  | .receive payload =>
    if debugger.phase.hasReader then (debugger.receive payload).getD (debugger, [])
    else (debugger, [])
  | .dispatch message => (debugger.dispatch message).getD (debugger, [])
  | .close => ({ debugger with queue := debugger.queue.close }, [])
  | .next cancelled => ({ debugger with queue := (debugger.queue.next cancelled).2 }, [])
  | .written => ({ debugger with queue := debugger.queue.messageWritten }, [])
  | .send message => ((debugger.send message).2, [])
  | .register path line kind => (debugger.registerLine path line kind, [])
  | .enter strategy =>
    if debugger.stage? strategy.name = none then (debugger.enter strategy, []) else (debugger, [])
  | .takePlace => (debugger.takePlace, [])
  | .release => (debugger.release, [])
  | .leave name =>
    if debugger.stage? name = some .returned then debugger.leave name else (debugger, [])

def after (debugger : Debugger) (actions : List Action) : Debugger :=
  actions.foldl (fun debugger action => (debugger.perform action).1) debugger

def effects (debugger : Debugger) : List Action → List Effect
  | [] => []
  | action :: actions =>
    (debugger.perform action).2 ++ effects (debugger.perform action).1 actions

def fresh (config : Config) (pid : UInt32) (directory : Option Discovery.Directory) : Debugger where
  config := config
  pid := pid
  directory := directory

theorem after_append (debugger : Debugger) (actions later : List Action) :
    debugger.after (actions ++ later) = (debugger.after actions).after later :=
  List.foldl_append

theorem after_concat (debugger : Debugger) (actions : List Action) (action : Action) :
    debugger.after (actions ++ [action]) = ((debugger.after actions).perform action).1 :=
  debugger.after_append actions [action]

theorem effects_append (debugger : Debugger) (actions later : List Action) :
    debugger.effects (actions ++ later) =
      debugger.effects actions ++ (debugger.after actions).effects later := by
  induction actions generalizing debugger with
  | nil => rfl
  | cons action actions ih =>
      simp only [List.cons_append, effects, ih, List.append_assoc]
      rfl

theorem effects_concat (debugger : Debugger) (actions : List Action) (action : Action) :
    debugger.effects (actions ++ [action]) =
      debugger.effects actions ++ ((debugger.after actions).perform action).2 := by
  rw [effects_append]
  simp [effects]

/-- The connection as `run` follows it is one of these histories. -/
theorem after_befall (debugger : Debugger) (occurrences : List Occurrence) :
    debugger.after (occurrences.map .befall) = (debugger.run occurrences).1 := by
  induction occurrences generalizing debugger with
  | nil => rfl
  | cons occurrence occurrences ih => exact ih (debugger.step occurrence).1

theorem effects_befall (debugger : Debugger) (occurrences : List Occurrence) :
    debugger.effects (occurrences.map .befall) = (debugger.run occurrences).2 := by
  induction occurrences generalizing debugger with
  | nil => rfl
  | cons occurrence occurrences ih =>
      rw [List.map_cons, effects, run, andThen]
      exact congrArg _ (ih (debugger.step occurrence).1)

end Debugger

def Effect.isOfConnection : Effect → Bool
  | .address _ => true
  | .sessionOpened => true
  | .sessionClosed _ => true
  | _ => false

namespace Debugger

variable {debugger before middle after : Debugger} {effects : List Effect}

inductive Talk (before : Debugger) : Debugger → Prop where
  | told (queue : SendQueue ServerMessage) (registry : Registry)
      (configuration : DebugConfiguration) (active : queue.active = before.queue.active)
      (idle : before.queue.IsIdle → queue.IsIdle) :
      Talk before { before with
        queue := queue
        registry := registry
        configuration := configuration }

theorem Talk.refl (debugger : Debugger) : Talk debugger debugger :=
  .told debugger.queue debugger.registry debugger.configuration rfl id

theorem Talk.trans (first : Talk before middle) (second : Talk middle after) :
    Talk before after := by
  cases first with
  | told _ _ _ active idle =>
      cases second with
      | told queue registry configuration activeLater idleLater =>
          refine .told queue registry configuration (activeLater.trans active) ?_
          intro quiet
          exact idleLater (idle quiet)

theorem talk_send (debugger : Debugger) (message : ServerMessage) :
    Talk debugger (debugger.send message).2 := by
  unfold send SendQueue.push
  by_cases active : debugger.queue.active = true
  · rw [if_pos active]
    refine .told _ debugger.registry debugger.configuration rfl ?_
    intro idle
    have inactive := idle.inactive
    rw [active] at inactive
    contradiction
  · rw [if_neg active]
    exact Talk.refl debugger

theorem talk_sendAll (debugger : Debugger) (messages : List ServerMessage) :
    Talk debugger (debugger.sendAll messages) := by
  induction messages generalizing debugger with
  | nil => exact Talk.refl debugger
  | cons message messages ih =>
      apply (talk_send debugger message).trans
      exact ih (debugger.send message).2

theorem talk_register (debugger : Debugger) (registry : Registry) :
    Talk debugger { debugger with registry := registry } :=
  .told debugger.queue registry debugger.configuration rfl id

theorem talk_registerLine (debugger : Debugger) (path : String) (line : Int64) (kind : LineKind) :
    Talk debugger (debugger.registerLine path line kind) :=
  (talk_register debugger _).trans (talk_sendAll _ _)

theorem talk_respond (debugger : Debugger) (response : Response) :
    Talk debugger (debugger.respond response) :=
  talk_send debugger (.response response)

theorem talk_configure (debugger : Debugger) (event : OutputEvent) :
    Talk debugger (debugger.configure event) := by
  unfold configure
  split
  · exact Talk.refl debugger
  · exact .told debugger.queue debugger.registry _ rfl id

theorem talk_reject (debugger : Debugger) (error : DecodeError) :
    Talk debugger (debugger.reject error) := by
  unfold reject
  split
  · exact talk_respond debugger _
  · exact Talk.refl debugger

theorem talk_forward {request : Request}
    (served : debugger.forward request = some (after, effects)) :
    Talk debugger after ∧ ∀ effect ∈ effects, ∃ name command, effect = .asked name command := by
  unfold forward at served
  split at served
  · contradiction
  · cases served
    exact ⟨talk_respond debugger _, by simp⟩
  · split at served
    · cases served
      exact ⟨Talk.refl debugger, by simp⟩
    · cases served
      exact ⟨(talk_sendAll debugger _).trans (talk_respond _ _), by simp⟩

end Debugger

def ClientMessage.isConfigurationDone : ClientMessage → Bool
  | .request { command := .configurationDone, .. } => true
  | _ => false

namespace Debugger

variable {debugger before after heard : Debugger} {effects : List Effect} {action : Action}

def hear (debugger : Debugger) (message : ClientMessage) : Debugger :=
  match message.isConfigurationDone with
  | true => { debugger with connection := debugger.connection.markConfigured }
  | false => debugger

theorem Talk.markConfigured (talk : Talk before after) :
    Talk { before with connection := before.connection.markConfigured }
      { after with connection := after.connection.markConfigured } := by
  cases talk with
  | told queue registry configuration active idle =>
      exact .told queue registry configuration active idle

theorem talk_dispatch {message : ClientMessage}
    (dealt : debugger.dispatch message = some (after, effects)) :
    Talk (debugger.hear message) after ∧
      ∀ effect ∈ effects, ∃ name command, effect = .asked name command := by
  cases message with
  | output event =>
      cases dealt
      exact ⟨talk_configure debugger event, by simp⟩
  | request request =>
      obtain ⟨seq, command⟩ := request
      cases command with
      | configurationDone =>
          cases dealt
          exact ⟨(talk_respond debugger _).markConfigured, by simp⟩
      | setBreakpoints arguments =>
          cases dealt
          exact ⟨(talk_register debugger _).trans (talk_respond _ _), by simp⟩
      | _ =>
          have forwarded : debugger.forward _ = some (after, effects) := dealt
          exact talk_forward forwarded

theorem isConfigurationDone_of_waiting {message : ClientMessage}
    (waiting : debugger.dispatch message = none) : message.isConfigurationDone = false := by
  cases message with
  | output event => rfl
  | request request =>
      obtain ⟨seq, command⟩ := request
      cases command with
      | configurationDone => contradiction
      | _ => rfl

def heeds (debugger : Debugger) : Action → Option ClientMessage
  | .receive payload =>
    if debugger.phase.hasReader then (ClientMessage.decode payload).toOption else none
  | .dispatch message => some message
  | _ => none

def completes (debugger : Debugger) (action : Action) : Bool :=
  (debugger.heeds action).any (·.isConfigurationDone)

/-- What an aside leaves as it was, and the little that it may change of the connection. -/
structure Aside (before : Debugger) (action : Action) (after : Debugger) (effects : List Effect) :
    Prop where
  pid : after.pid = before.pid
  phase : after.phase = before.phase
  options : after.options = before.options
  directory : after.directory = before.directory
  discoverable : after.discoverable = before.discoverable
  canceller : after.canceller = before.canceller
  sessionEnding : after.handoff.sessionEnding = before.handoff.sessionEnding
  active : after.queue.active = before.queue.active
  idle : before.queue.IsIdle → after.queue.IsIdle
  connection : after.connection =
    if before.completes action then before.connection.markConfigured else before.connection
  attachments : action.attaches = false → after.attachments = before.attachments
  strategy : action.attaches = false → after.handoff.strategy = before.handoff.strategy
  silent : ∀ effect ∈ effects, effect.isOfConnection = false
  ended : ∀ name, .ended name ∈ effects → action = .leave name

theorem Talk.aside (talk : Talk heard after)
    (same : heard = { before with
      connection :=
        if before.completes action then before.connection.markConfigured else before.connection })
    (asking : ∀ effect ∈ effects, ∃ name command, effect = .asked name command) :
    Aside before action after effects := by
  subst same
  cases talk with
  | told queue registry configuration active idle =>
      refine ⟨rfl, rfl, rfl, rfl, rfl, rfl, rfl, active, idle, rfl, fun _ => rfl, fun _ => rfl, ?_,
        ?_⟩
      · intro effect member
        obtain ⟨name, command, asked⟩ := asking effect member
        rw [asked]
        rfl
      · intro name member
        obtain ⟨_, _, asked⟩ := asking (.ended name) member
        contradiction

theorem Talk.aside_of_unheeded (talk : Talk before after) (unheeded : before.heeds action = none) :
    Aside before action after [] := by
  apply talk.aside
  · simp [completes, unheeded]
  · simp

theorem aside_dispatch {message : ClientMessage}
    (heeded : debugger.heeds action = some message) :
    Aside debugger action ((debugger.dispatch message).getD (debugger, [])).1
      ((debugger.dispatch message).getD (debugger, [])).2 := by
  cases dealt : debugger.dispatch message with
  | none =>
      have other := isConfigurationDone_of_waiting dealt
      apply (Talk.refl debugger).aside
      · simp [completes, heeded, other]
      · simp
  | some result =>
      obtain ⟨talk, asking⟩ := talk_dispatch dealt
      apply talk.aside _ asking
      simp only [completes, heeded, Option.any_some, hear]
      split <;> simp [*]

theorem aside_receive (debugger : Debugger) (payload : Bytes) :
    Aside debugger (.receive payload) (debugger.perform (.receive payload)).1
      (debugger.perform (.receive payload)).2 := by
  rw [perform]
  by_cases reader : debugger.phase.hasReader = true
  · rw [if_pos reader, receive]
    cases decoded : ClientMessage.decode payload with
    | ok message =>
        apply aside_dispatch
        simp [heeds, reader, decoded, Except.toOption]
    | error error =>
        apply (talk_reject debugger error).aside_of_unheeded
        simp [heeds, decoded, Except.toOption]
  · rw [if_neg reader]
    apply (Talk.refl debugger).aside_of_unheeded
    simp [heeds, reader]

theorem talk_queue (debugger : Debugger) (queue : SendQueue ServerMessage)
    (active : queue.active = debugger.queue.active)
    (idle : debugger.queue.IsIdle → queue.IsIdle) :
    Talk debugger { debugger with queue := queue } :=
  .told queue debugger.registry debugger.configuration active idle

theorem talk_next (debugger : Debugger) (cancelled : Bool) :
    Talk debugger { debugger with queue := (debugger.queue.next cancelled).2 } := by
  unfold SendQueue.next
  by_cases told : cancelled = true
  · rw [if_pos told]
    exact Talk.refl debugger
  · rw [if_neg told]
    cases pending : debugger.queue.pending with
    | nil => exact Talk.refl debugger
    | cons message rest =>
        apply talk_queue debugger { debugger.queue with inFlight := true, pending := rest } rfl
        intro idle
        have nothing := idle.empty
        rw [pending] at nothing
        contradiction

theorem publishFirst_sessionEnding (handoff : Handoff Strategy)
    (attachments : List (Strategy × AttachStage)) :
    (publishFirst handoff attachments).1.sessionEnding = handoff.sessionEnding := by
  induction attachments with
  | nil => rfl
  | cons attachment attachments ih =>
      obtain ⟨strategy, stage⟩ := attachment
      cases stage with
      | inLine =>
          rw [publishFirst, Handoff.publish?]
          cases handoff.strategy with
          | none => rfl
          | some other => rfl
      | waiting => exact ih
      | returned => exact ih

theorem aside_perform (debugger : Debugger) {action : Action} (aside : action.isAside = true) :
    Aside debugger action (debugger.perform action).1 (debugger.perform action).2 := by
  cases action with
  | start options => contradiction
  | befall occurrence => contradiction
  | receive payload => exact aside_receive debugger payload
  | dispatch message => exact aside_dispatch rfl
  | close =>
      have talk := talk_queue debugger debugger.queue.close rfl
        fun idle => ⟨idle.inactive, idle.written, idle.empty⟩
      exact talk.aside_of_unheeded rfl
  | next cancelled => exact (talk_next debugger cancelled).aside_of_unheeded rfl
  | written =>
      have talk := talk_queue debugger debugger.queue.messageWritten rfl
        fun idle => ⟨idle.inactive, rfl, idle.empty⟩
      exact talk.aside_of_unheeded rfl
  | send message => exact (talk_send debugger message).aside_of_unheeded rfl
  | register path line kind =>
      exact (talk_registerLine debugger path line kind).aside_of_unheeded rfl
  | enter strategy =>
      rw [perform]
      split
      · exact ⟨rfl, rfl, rfl, rfl, rfl, rfl, rfl, rfl, id, rfl, by simp [Action.attaches],
          by simp [Action.attaches], by simp, by simp⟩
      · exact (Talk.refl debugger).aside_of_unheeded rfl
  | takePlace =>
      have ending := publishFirst_sessionEnding debugger.handoff debugger.attachments
      exact ⟨rfl, rfl, rfl, rfl, rfl, rfl, ending, rfl, id, rfl, by simp [Action.attaches],
        by simp [Action.attaches], by simp [perform], by simp [perform]⟩
  | release =>
      exact ⟨rfl, rfl, rfl, rfl, rfl, rfl, rfl, rfl, id, rfl, by simp [Action.attaches],
        by simp [Action.attaches], by simp [perform], by simp [perform]⟩
  | leave name =>
      rw [perform]
      split
      · refine ⟨rfl, rfl, rfl, rfl, rfl, rfl, rfl, rfl, id, rfl, by simp [Action.attaches],
          by simp [Action.attaches], ?_, ?_⟩
        · simp [leave, Effect.isOfConnection]
        · intro other member
          simp only [leave, List.mem_singleton, Effect.ended.injEq] at member
          rw [member]
      · exact (Talk.refl debugger).aside_of_unheeded rfl

end Debugger

end Debuggee
