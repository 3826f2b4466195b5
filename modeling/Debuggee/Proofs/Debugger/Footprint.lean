import Debuggee.Proofs.Debugger.Turn
import Debuggee.Proofs.Request.RoundTrip

/-!
What a client can change by what it sends. Whatever the strategy makes of it, a payload changes only
what its message is about, and a payload that comes to nothing changes nothing but the queue.
-/

namespace Debuggee

def OutputEvent.Configures (event : OutputEvent) (configuration : DebugConfiguration) : Prop :=
  event.category = some "ansibug_debug_configuration" ∧
    ∃ data, event.data = some data ∧ fromJson data = .ok configuration

theorem DebugConfiguration.ofOutput?_eq_some_iff {event : OutputEvent}
    {configuration : DebugConfiguration} :
    ofOutput? event = some configuration ↔ event.Configures configuration := by
  unfold ofOutput? OutputEvent.Configures category
  by_cases named : event.category = some "ansibug_debug_configuration"
  · rw [if_pos named]
    cases event.data with
    | none => simp
    | some data =>
        cases read : (fromJson data : Except LayoutError DebugConfiguration) with
        | error error => simp [read, Except.toOption]
        | ok found => simp [read, named, Except.toOption]
  · simp [named]

namespace Debugger

variable {debugger before middle after : Debugger} {effects : List Effect}

def OnlyQueues (before after : Debugger) : Prop :=
  after = { before with queue := after.queue }

theorem OnlyQueues.refl (debugger : Debugger) : OnlyQueues debugger debugger := rfl

theorem OnlyQueues.trans (first : OnlyQueues before middle) (second : OnlyQueues middle after) :
    OnlyQueues before after := by
  rw [OnlyQueues] at first second ⊢
  rw [second, first]

theorem onlyQueues_respond (debugger : Debugger) (response : Response) :
    OnlyQueues debugger (debugger.respond response) := rfl

theorem onlyQueues_sendAll (debugger : Debugger) (messages : List ServerMessage) :
    OnlyQueues debugger (debugger.sendAll messages) := by
  induction messages generalizing debugger with
  | nil => exact OnlyQueues.refl debugger
  | cons message messages ih =>
      have sent : OnlyQueues debugger (debugger.send message).2 := rfl
      exact sent.trans (ih (debugger.send message).2)

theorem onlyQueues_forward {request : Request}
    (served : debugger.forward request = some (after, effects)) : OnlyQueues debugger after := by
  unfold forward at served
  split at served
  · contradiction
  · cases served
    exact onlyQueues_respond debugger _
  · split at served
    · cases served
      exact OnlyQueues.refl debugger
    · cases served
      exact (onlyQueues_sendAll debugger _).trans (onlyQueues_respond _ _)

theorem onlyQueues_reject (debugger : Debugger) (error : DecodeError) :
    OnlyQueues debugger (debugger.reject error) := by
  unfold reject
  split
  · exact onlyQueues_respond debugger _
  · exact OnlyQueues.refl debugger

theorem forward_eq_none_iff {request : Request} :
    debugger.forward request = none ↔ debugger.handoff.wait = .waiting := by
  unfold forward
  cases debugger.handoff.wait with
  | waiting => simp
  | ended => simp
  | found strategy =>
      dsimp only
      split <;> simp

/-- A payload has to wait only if it is a request for a strategy that may still come. -/
theorem receive_eq_none_iff {payload : Bytes} :
    debugger.receive payload = none ↔ ∃ request,
      ClientMessage.decode payload = .ok (.request request) ∧
        request.command.needsStrategy = true ∧ debugger.handoff.wait = .waiting := by
  unfold receive
  cases decoded : ClientMessage.decode payload with
  | error error => simp
  | ok message =>
      cases message with
      | output event => simp [dispatch]
      | request request =>
          obtain ⟨seq, command⟩ := request
          cases command with
          | configurationDone => simp [dispatch, serve, Command.needsStrategy]
          | setBreakpoints arguments => simp [dispatch, serve, Command.needsStrategy]
          | _ =>
              simp only [dispatch, serve, forward_eq_none_iff, Except.ok.injEq,
                ClientMessage.request.injEq, exists_eq_left', Command.needsStrategy, true_and]

/-- What comes to nothing, apart from an answer. -/
inductive Inert (handoff : Handoff Strategy) : Except DecodeError ClientMessage → Prop where
  | undecodable (error : DecodeError) : Inert handoff (.error error)
  | ignored (event : OutputEvent) (idle : ∀ configuration, ¬ event.Configures configuration) :
      Inert handoff (.ok (.output event))
  | forwarded (request : Request) (needed : request.command.needsStrategy = true) :
      Inert handoff (.ok (.request request))
  | failed (request : Request) (unserved : ¬ handoff.Serves request.command) :
      Inert handoff (.ok (.request request))

structure Footprint (before : Debugger) (message : Except DecodeError ClientMessage)
    (after : Debugger) : Prop where
  tables : after.registry.tables = before.registry.tables
  replaced : ∀ seq arguments, message = .ok (.request ⟨seq, .setBreakpoints arguments⟩) →
    after.registry =
      (before.registry.replace (arguments.source.path.getD "")
        (before.configuration.toRuntimePath (arguments.source.path.getD "")) arguments.source
        arguments.requested arguments.sourceModified).1
  registry : (∀ seq arguments, message ≠ .ok (.request ⟨seq, .setBreakpoints arguments⟩)) →
    after.registry = before.registry
  configured : ∀ event configuration, message = .ok (.output event) →
    event.Configures configuration → after.configuration = configuration
  configuration : (∀ event configuration, message = .ok (.output event) →
    ¬ event.Configures configuration) → after.configuration = before.configuration
  completed : ∀ seq, message = .ok (.request ⟨seq, .configurationDone⟩) →
    after.connection = { before.connection with configured := true }
  connection : (∀ seq, message ≠ .ok (.request ⟨seq, .configurationDone⟩)) →
    after.connection = before.connection
  handoff : after.handoff = before.handoff
  inert : Inert before.handoff message → OnlyQueues before after

theorem Footprint.of_onlyQueues {message : Except DecodeError ClientMessage}
    (footprint : Footprint before message middle) (same : OnlyQueues middle after) :
    Footprint before message after := by
  have whole := same
  rw [OnlyQueues] at whole
  rw [whole]
  exact ⟨footprint.tables, footprint.replaced, footprint.registry, footprint.configured,
    footprint.configuration, footprint.completed, footprint.connection, footprint.handoff,
    fun inert => whole ▸ (footprint.inert inert).trans same⟩

theorem not_inert_of_own {handoff : Handoff Strategy} {request : Request}
    (own : request.command.needsStrategy = false) : ¬ Inert handoff (.ok (.request request)) := by
  intro inert
  cases inert with
  | forwarded _ needed =>
      rw [own] at needed
      contradiction
  | failed _ unserved => exact unserved (Handoff.serves_of_own own)

theorem footprint_refl (debugger : Debugger) {message : Except DecodeError ClientMessage}
    (breakpoints : ∀ seq arguments, message ≠ .ok (.request ⟨seq, .setBreakpoints arguments⟩))
    (events : ∀ event configuration, message = .ok (.output event) →
      ¬ event.Configures configuration)
    (completes : ∀ seq, message ≠ .ok (.request ⟨seq, .configurationDone⟩)) :
    Footprint debugger message debugger where
  tables := rfl
  replaced seq arguments same := absurd same (breakpoints seq arguments)
  registry _ := rfl
  configured event configuration same configures :=
    absurd configures (events event configuration same)
  configuration _ := rfl
  completed seq same := absurd same (completes seq)
  connection _ := rfl
  handoff := rfl
  inert _ := OnlyQueues.refl debugger

theorem footprint_configured (debugger : Debugger) {event : OutputEvent}
    {configuration : DebugConfiguration} (configures : event.Configures configuration) :
    Footprint debugger (.ok (.output event)) { debugger with configuration := configuration } where
  tables := rfl
  replaced := by simp
  registry _ := rfl
  configured := by
    intro other another same again
    cases same
    have found := DebugConfiguration.ofOutput?_eq_some_iff.mpr configures
    rw [DebugConfiguration.ofOutput?_eq_some_iff.mpr again] at found
    exact (Option.some.inj found).symm
  configuration idle := absurd configures (idle event configuration rfl)
  completed := by simp
  connection _ := rfl
  handoff := rfl
  inert := by
    intro inert
    cases inert with
    | ignored _ idle => exact absurd configures (idle configuration)

theorem footprint_configure (debugger : Debugger) (event : OutputEvent) :
    Footprint debugger (.ok (.output event)) (debugger.configure event) := by
  unfold configure
  split
  · rename_i ignored
    refine footprint_refl debugger (by simp) ?_ (by simp)
    intro other configuration same configures
    cases same
    rw [DebugConfiguration.ofOutput?_eq_some_iff.mpr configures] at ignored
    contradiction
  · rename_i configuration found
    exact footprint_configured debugger (DebugConfiguration.ofOutput?_eq_some_iff.mp found)

theorem footprint_markConfigured (debugger : Debugger) (seq : Int64) :
    Footprint debugger (.ok (.request ⟨seq, .configurationDone⟩))
      { debugger with connection := debugger.connection.markConfigured } where
  tables := rfl
  replaced := by simp
  registry _ := rfl
  configured := by simp
  configuration _ := rfl
  completed _ _ := rfl
  connection other := absurd rfl (other seq)
  handoff := rfl
  inert inert := absurd inert (not_inert_of_own rfl)

theorem footprint_setBreakpoints (debugger : Debugger) (seq : Int64)
    (arguments : SetBreakpointsArguments) :
    Footprint debugger (.ok (.request ⟨seq, .setBreakpoints arguments⟩))
      (debugger.setBreakpoints arguments).2 where
  tables := by
    simp only [setBreakpoints, Registry.replace]
    split <;> rfl
  replaced := by
    intro other another same
    cases same
    rfl
  registry other := absurd rfl (other seq arguments)
  configured := by simp
  configuration _ := rfl
  completed := by simp
  connection _ := rfl
  handoff := rfl
  inert inert := absurd inert (not_inert_of_own rfl)

theorem footprint_serve {request : Request}
    (served : debugger.serve request = some (after, effects)) :
    Footprint debugger (.ok (.request request)) after := by
  obtain ⟨seq, command⟩ := request
  cases command with
  | configurationDone =>
      cases served
      exact (footprint_markConfigured debugger seq).of_onlyQueues rfl
  | setBreakpoints arguments =>
      cases served
      exact (footprint_setBreakpoints debugger seq arguments).of_onlyQueues
        (onlyQueues_respond (debugger.setBreakpoints arguments).2 _)
  | _ =>
      have forwarded : debugger.forward _ = some (after, effects) := served
      exact (footprint_refl debugger (by simp) (by simp) (by simp)).of_onlyQueues
        (onlyQueues_forward forwarded)

theorem footprint_receive {payload : Bytes}
    (received : debugger.receive payload = some (after, effects)) :
    Footprint debugger (ClientMessage.decode payload) after := by
  unfold receive at received
  cases decoded : ClientMessage.decode payload with
  | error error =>
      rw [decoded] at received
      cases received
      exact (footprint_refl debugger (by simp) (by simp) (by simp)).of_onlyQueues
        (onlyQueues_reject debugger error)
  | ok message =>
      rw [decoded] at received
      cases message with
      | output event =>
          cases received
          exact footprint_configure debugger event
      | request request => exact footprint_serve received

theorem footprint_receiveAll {payloads : List Bytes}
    (received : debugger.receiveAll payloads = some (after, effects)) :
    after.registry.tables = debugger.registry.tables ∧ after.handoff = debugger.handoff ∧
      ((∀ payload ∈ payloads, Inert debugger.handoff (ClientMessage.decode payload)) →
        OnlyQueues debugger after) := by
  induction payloads generalizing debugger effects with
  | nil =>
      cases received
      exact ⟨rfl, rfl, fun _ => OnlyQueues.refl _⟩
  | cons payload payloads ih =>
      rw [receiveAll] at received
      obtain ⟨⟨middle, _⟩, one, rest⟩ := Option.bind_eq_some_iff.mp received
      obtain ⟨⟨last, _⟩, others, same⟩ := Option.bind_eq_some_iff.mp rest
      cases same
      have footprint := footprint_receive one
      obtain ⟨tables, handoff, inert⟩ := ih others
      refine ⟨tables.trans footprint.tables, handoff.trans footprint.handoff, ?_⟩
      intro all
      have first := footprint.inert (all payload (by simp))
      refine first.trans (inert fun other member => ?_)
      rw [footprint.handoff]
      exact all other (List.mem_cons_of_mem payload member)

/--
A payload is dealt with at once, unless it is a request for a strategy that may still come. Tables
and strategy stay as they are. Breakpoints change as the registry replaces them, if the payload asks
for that; path mappings change as a whole, if it configures some; and it may say that the
configuration is done. Whatever comes to nothing changes nothing but the queue.
-/
theorem receive_footprint (debugger : Debugger) (payload : Bytes) :
    (debugger.receive payload = none ↔ ∃ request,
      ClientMessage.decode payload = .ok (.request request) ∧
        request.command.needsStrategy = true ∧ debugger.handoff.wait = .waiting) ∧
    ∀ after effects, debugger.receive payload = some (after, effects) →
      Footprint debugger (ClientMessage.decode payload) after :=
  ⟨receive_eq_none_iff, fun _ _ received => footprint_receive received⟩

theorem receive_footprint_of_mapped_path :
    let debugger : Debugger :=
      { configuration := ⟨[⟨"/home", "/run"⟩]⟩
        registry := (({} : Registry).register "/run/play" 3 .start).1 }
    let source : Source := { path := some "/home/play" }
    let message : ClientMessage :=
      .request ⟨4, .setBreakpoints { source := source, lines := some [3] }⟩
    ∃ after effects, debugger.receive message.encode = some (after, effects) ∧
      after.registry.tables = debugger.registry.tables ∧
      after.registry.breakpoints.values =
        [⟨1, source, { line := 3 }, "/home/play", "/run/play", some ⟨true, 3, 4⟩⟩] ∧
      after.configuration = debugger.configuration ∧ after.connection = debugger.connection := by
  intro debugger source message
  have decoded : ClientMessage.decode message.encode = .ok message := by
    have written := message.written_envelope
    exact written.decode trivial (Json.draftOf_render (written.exact trivial))
      (written.distinct trivial) rfl
  obtain ⟨waits, changes⟩ := receive_footprint debugger message.encode
  rw [decoded] at waits changes
  cases received : debugger.receive message.encode with
  | none =>
      obtain ⟨request, same, needed, _⟩ := waits.mp received
      rw [← ClientMessage.request.inj (Except.ok.inj same)] at needed
      contradiction
  | some outcome =>
      obtain ⟨after, effects⟩ := outcome
      have footprint := changes after effects received
      refine ⟨after, effects, rfl, footprint.tables, ?_, footprint.configuration (by simp [message]),
        footprint.connection (by simp [message])⟩
      rw [footprint.replaced 4 _ rfl]
      decide

end Debugger

end Debuggee
