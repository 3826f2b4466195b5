import Debuggee.Debugger.Session
import Debuggee.Proofs.Debugger.Advance
import Debuggee.Proofs.Debugger.Turn
import Debuggee.Proofs.Reply.Stream

/-!
A session from its first octet to its last. The stream of a client is cut into payloads, the
payloads are dealt with in their order, and what they bring is written in numbered frames.
-/

namespace Debuggee.Debugger

variable {debugger after : Debugger} {ending : Frame.Ending} {octets : Bytes}
variable {effects : List Effect}

theorem receiveStream_of_frame {payload rest : Bytes}
    (found : Frame.read ending octets = .frame payload rest) :
    debugger.receiveStream ending octets = (do
      let (debugger, effects) ← debugger.receive payload
      let (debugger, later) ← debugger.receiveStream ending rest
      some (debugger, effects ++ later)) := by
  rw [receiveStream]
  split
  · rename_i ended
    rw [found] at ended
    contradiction
  · rename_i failed
    rw [found] at failed
    contradiction
  · rename_i same
    rw [found] at same
    cases same
    rfl

theorem receiveStream_of_end
    (unframed : ∀ payload rest, Frame.read ending octets ≠ .frame payload rest) :
    debugger.receiveStream ending octets =
      some ({ debugger with queue := debugger.queue.close }, []) := by
  rw [receiveStream]
  split
  · rfl
  · rfl
  · rename_i payload rest found
    exact absurd found (unframed payload rest)

/-- A stream is dealt with payload by payload; where it ends, the writer is told. -/
theorem receiveStream_eq (debugger : Debugger) (ending : Frame.Ending) (octets : Bytes) :
    debugger.receiveStream ending octets =
      (debugger.receiveAll (Frame.readAll ending octets).1).map fun (after, effects) =>
        ({ after with queue := after.queue.close }, effects) := by
  fun_induction Frame.readAll ending octets generalizing debugger with
  | case1 octets payload rest found payloads last readRest ih =>
      rw [receiveStream_of_frame found, receiveAll]
      rw [readRest] at ih
      cases debugger.receive payload with
      | none => rfl
      | some received =>
          simp only [Option.bind_eq_bind, Option.bind_some, ih received.1]
          cases received.1.receiveAll payloads <;> rfl
  | case2 octets unframed => exact receiveStream_of_end unframed

theorem receiveAll_phase (reader : debugger.phase.hasReader = true) {payloads : List Bytes}
    (received : debugger.receiveAll payloads = some (after, effects)) :
    after.phase = debugger.phase := by
  induction payloads generalizing debugger effects with
  | nil =>
      cases received
      rfl
  | cons payload payloads ih =>
      rw [receiveAll] at received
      obtain ⟨⟨middle, _⟩, one, rest⟩ := Option.bind_eq_some_iff.mp received
      obtain ⟨⟨last, _⟩, others, same⟩ := Option.bind_eq_some_iff.mp rest
      cases same
      have aside := debugger.aside_receive payload
      rw [perform, if_pos reader, one] at aside
      have still : middle.phase = debugger.phase := aside.phase
      exact (ih (by rwa [still]) others).trans still

theorem step_reached {mode : SocketMode} {attempt : Attempt Nat} {canceller : Canceller Nat}
    (waiting : debugger.phase = mode.awaiting)
    (established : debugger.canceller.establish attempt = (.ok (), canceller)) :
    debugger.step (.reached attempt) =
      { debugger with canceller := canceller }.openSession mode := by
  have uncancelled : debugger.canceller.cancelled = false := by
    rcases debugger.canceller.establish_cases attempt with ⟨uncancelled, _⟩ | ⟨_, _, failed, _⟩
    · exact uncancelled
    · rw [established] at failed
      cases failed
  have met : debugger.meet mode attempt =
      { debugger with canceller := canceller }.openSession mode := by
    rw [meet, if_neg (by simp [uncancelled]), established]
  rw [← met]
  cases mode with
  | connect =>
      have dialling : debugger.phase = .dialling := waiting
      simp only [step, dialling]
  | listen =>
      have listening : debugger.phase = .listening := waiting
      simp only [step, listening]

theorem run_hungUp {mode : SocketMode} (serving : debugger.phase = .inSession mode)
    (occurrences : List Occurrence) :
    debugger.run (.hungUp :: occurrences) =
      (((debugger.closeSession mode).1.run occurrences).1,
        .sessionClosed debugger.queue.pending.length ::
          ((debugger.closeSession mode).1.run occurrences).2) := by
  simp only [run, andThen, step, serving]
  rfl

theorem converse_of_served {mode : SocketMode} {attempt : Attempt Nat} {opened served : Debugger}
    {first : List Effect} (opens : debugger.step (.reached attempt) = (opened, first))
    (streamed : opened.receiveStream .closed octets = some (served, effects))
    (serving : served.phase = .inSession mode) :
    ∃ closed later, debugger.converse attempt octets =
      some (ServerMessage.stream served.queue.pending, closed,
        first ++ effects ++ .sessionClosed 0 :: later) := by
  have stillServing : served.drain.2.phase = .inSession mode := serving
  let last := (served.drain.2.closeSession mode).1.run [.readOut]
  refine ⟨last.1, last.2, ?_⟩
  rw [converse, opens]
  simp only [Option.bind_eq_bind, streamed, Option.bind_some, run_hungUp stillServing]
  rfl

/--
A session answers what can be read of a stream, whatever the octets are: each payload brings what
its turn brings, all of it is written in numbered frames, and nothing is left when the session ends.
-/
theorem converse_answers {mode : SocketMode} {attempt : Attempt Nat} {strategy : Strategy}
    (waiting : debugger.phase = mode.awaiting)
    (established : (debugger.canceller.establish attempt).1 = .ok ())
    (attached : debugger.handoff.strategy = some strategy) (octets : Bytes) :
    let turns :=
      (Frame.readAll .closed octets).1.map (Turn.mk debugger.handoff.beginSession)
    ∃ closed later parts, debugger.converse attempt octets =
        some (ServerMessage.stream parts.flatten, closed,
          .sessionOpened :: turns.flatMap Turn.questions ++ .sessionClosed 0 :: later) ∧
      List.Forall₂ Turn.Brings turns parts := by
  intro turns
  let opened :=
    ({ debugger with canceller := (debugger.canceller.establish attempt).2 }.openSession mode).1
  have opens : debugger.step (.reached attempt) = (opened, [.sessionOpened]) :=
    step_reached waiting (Prod.ext established rfl)
  have settled : opened.handoff.wait ≠ .waiting := by
    have found : opened.handoff.strategy = some strategy := attached
    simp [Handoff.wait, found]
  have active : opened.queue.active = true := rfl
  have settledAll : ∀ turn ∈ turns, turn.handoff.wait ≠ .waiting := by
    intro turn member
    obtain ⟨payload, _, rfl⟩ := List.mem_map.mp member
    exact settled
  obtain ⟨after, parts, taken, queue, brings⟩ := takeAll_brings active settledAll
  have received : opened.receiveAll (Frame.readAll .closed octets).1 =
      some (after, turns.flatMap Turn.questions) :=
    (receiveAll_eq_takeAll active settled _).trans taken
  have streamed := opened.receiveStream_eq .closed octets
  rw [received, Option.map_some] at streamed
  have serving : after.phase = .inSession mode := by
    have reader : opened.phase.hasReader = true := rfl
    exact receiveAll_phase reader received
  have sent : after.queue.pending = parts.flatten := by
    rw [queue]
    rfl
  obtain ⟨closed, later, conversed⟩ := converse_of_served opens streamed serving
  refine ⟨closed, later, parts, ?_, brings⟩
  rw [conversed]
  simp [SendQueue.close, sent]

/-- To what a client has written frame by frame, it gets what each of its payloads brings. -/
theorem converse_frames {mode : SocketMode} {attempt : Attempt Nat} {strategy : Strategy}
    (waiting : debugger.phase = mode.awaiting)
    (established : (debugger.canceller.establish attempt).1 = .ok ())
    (attached : debugger.handoff.strategy = some strategy) {payloads : List Bytes}
    (small : ∀ payload ∈ payloads, payload.length ≤ Frame.maxPayload) :
    ∃ closed effects parts, debugger.converse attempt (payloads.flatMap Frame.write) =
        some (ServerMessage.stream parts.flatten, closed, effects) ∧
      List.Forall₂ (fun payload => (Turn.mk debugger.handoff.beginSession payload).Brings)
        payloads parts := by
  obtain ⟨closed, later, parts, conversed, brings⟩ :=
    converse_answers waiting established attached (payloads.flatMap Frame.write)
  rw [Frame.readAll_write small] at brings
  exact ⟨closed, _, parts, conversed, List.forall₂_map_left_iff.mp brings⟩

end Debuggee.Debugger
