import Debuggee.Proofs.Debugger.Lifecycle
import Debuggee.Proofs.Transport.Linkage

/-!
The sockets of a debugger. What befalls its connection are steps of the connection and of those that
cancel, so in every history its canceller knows a socket exactly while there is a session on it.
-/

namespace Debuggee.Debugger

variable {debugger before after : Debugger} {linkage : Linkage Nat}

/-- A debugger and a connection that has come as far as it has. -/
structure Linked (debugger : Debugger) (linkage : Linkage Nat) : Prop where
  canceller : linkage.canceller = debugger.canceller
  serving : debugger.phase.isOpen = true → ∃ socket, linkage.stage = .session socket
  idle : debugger.phase.isOpen = false → linkage.stage = .idle

def Leads (linkage : Linkage Nat) (after : Debugger) : Prop :=
  ∃ steps : List (Linkage.Step Nat), after.Linked (linkage.runFrom steps)

theorem Linked.rest (linked : before.Linked linkage)
    (canceller : after.canceller = before.canceller)
    (phase : after.phase.isOpen = before.phase.isOpen) : Leads linkage after := by
  refine ⟨[], ?_, ?_, ?_⟩
  · rw [canceller]
    exact linked.canceller
  · rw [phase]
    exact linked.serving
  · rw [phase]
    exact linked.idle

theorem closed_goOn (debugger : Debugger) (mode : SocketMode) :
    (debugger.goOn mode).1.canceller = debugger.canceller ∧
      (debugger.goOn mode).1.phase.isOpen = false := by
  cases mode with
  | connect => exact ⟨rfl, rfl⟩
  | listen =>
      rw [goOn, listenOn]
      by_cases told : debugger.canceller.cancelled = true
      · rw [if_pos told]
        exact ⟨rfl, rfl⟩
      · rw [if_neg told]
        exact ⟨rfl, rfl⟩

theorem Linked.meet (linked : before.Linked linkage) (agrees : linkage.Agrees) (mode : SocketMode)
    (waiting : before.phase = mode.awaiting) (attempt : Attempt Nat) :
    Leads linkage (before.meet mode attempt).1 := by
  have shut : before.phase.isOpen = false := by rw [waiting, SocketMode.isOpen_awaiting]
  have idle := linked.idle shut
  have empty : linkage.canceller.socket = none := by
    rw [agrees.socket, idle]
    rfl
  have established := Linkage.runFrom_stepsOf idle empty attempt
  rw [Debugger.meet]
  by_cases told : before.canceller.cancelled = true
  · rw [if_pos told]
    exact linked.rest rfl shut.symm
  · rw [if_neg told]
    refine ⟨Linkage.stepsOf attempt, ?_⟩
    rw [established, Linkage.established, linked.canceller]
    cases before.canceller.establish attempt with
    | mk outcome canceller =>
        cases outcome with
        | ok _ => exact ⟨rfl, fun _ => ⟨attempt.socket, rfl⟩, fun shut => by contradiction⟩
        | error _ =>
            obtain ⟨same, shut⟩ := closed_goOn { before with canceller := canceller } mode
            refine ⟨same.symm, ?_, fun _ => rfl⟩
            intro serving
            simp [shut] at serving

theorem Linked.step (linked : before.Linked linkage) (agrees : linkage.Agrees)
    (occurrence : Occurrence) : Leads linkage (before.step occurrence).1 := by
  unfold Debugger.step
  split
  case h_1 =>
    refine ⟨[.announce, .stop], ?_, linked.serving, linked.idle⟩
    rw [← linked.canceller]
    rfl
  case h_2 address binding =>
    obtain ⟨_, _, same⟩ := before.advertise_eq
      (before.options.getD ⟨.listen, "", 0, false, none⟩) address
    exact linked.rest (by simp only [same]) (by rw [binding]; rfl)
  case h_3 binding => exact linked.rest rfl (by rw [binding]; rfl)
  case h_4 attempt dialling => exact linked.meet agrees .connect dialling attempt
  case h_5 attempt listening => exact linked.meet agrees .listen listening attempt
  case h_6 dialling => exact linked.rest rfl (by rw [dialling]; rfl)
  case h_7 listening =>
    obtain ⟨same, shut⟩ := closed_goOn before .listen
    exact linked.rest same (by rw [listening]; exact shut)
  case h_8 mode serving =>
    obtain ⟨socket, session⟩ := linked.serving (by rw [serving]; rfl)
    have closed : linkage.runFrom [.hangUp] =
        { linkage with
          canceller := linkage.canceller.clear
          stage := .idle
          events := linkage.events ++ [.hungUp socket] } := by
      simp only [Linkage.runFrom, List.foldl_cons, List.foldl_nil, Linkage.step, session]
    refine ⟨[.hangUp], ?_, fun opened => by contradiction, fun _ => ?_⟩
    · rw [closed, linked.canceller]
      rfl
    · rw [closed]
  case h_9 mode leaving =>
    obtain ⟨same, shut⟩ := closed_goOn before mode
    exact linked.rest same (by rw [leaving]; exact shut)
  case h_10 => exact linked.rest rfl rfl

theorem Linked.perform (linked : before.Linked linkage) (agrees : linkage.Agrees)
    (sound : before.Sound) (action : Action) : Leads linkage (before.perform action).1 := by
  by_cases befallen : ∃ occurrence, action = .befall occurrence
  · obtain ⟨occurrence, rfl⟩ := befallen
    exact linked.step agrees occurrence
  · have move := move_perform before action
    generalize (before.perform action).1 = after at *
    generalize (before.perform action).2 = effects at *
    cases move with
    | refused _ => exact linked.rest rfl rfl
    | bind unknown _ => exact linked.rest rfl (by rw [sound.notStarted unknown]; rfl)
    | dial unknown _ => exact linked.rest rfl (by rw [sound.notStarted unknown]; rfl)
    | advance _ => exact absurd ⟨_, rfl⟩ befallen
    | aside _ aside => exact linked.rest aside.canceller (by rw [aside.phase])

/-- In every history the canceller is one of a connection that makes one socket after another ready. -/
theorem exists_linked (config : Config) (pid : UInt32) (directory : Option Discovery.Directory)
    (actions : List Action) :
    ∃ steps : List (Linkage.Step Nat),
      ((fresh config pid directory).after actions).Linked (Linkage.run steps) := by
  induction actions using List.reverseRecOn with
  | nil => exact ⟨[], rfl, fun serving => by contradiction, fun _ => rfl⟩
  | append_singleton actions action ih =>
      obtain ⟨steps, linked⟩ := ih
      obtain ⟨more, linked⟩ := linked.perform (Linkage.agrees_run steps)
        (sound_after config pid directory actions) action
      refine ⟨steps ++ more, ?_⟩
      rw [after_concat, Linkage.run_append]
      exact linked

/-- Between two sessions, before the first and after the last one the canceller knows no socket. -/
theorem socket_isSome (config : Config) (pid : UInt32) (directory : Option Discovery.Directory)
    (actions : List Action) :
    let debugger := (fresh config pid directory).after actions
    debugger.canceller.socket.isSome = debugger.phase.isOpen := by
  intro debugger
  obtain ⟨steps, linked⟩ := exists_linked config pid directory actions
  rw [← linked.canceller, (Linkage.agrees_run steps).socket]
  cases serving : debugger.phase.isOpen with
  | true =>
      obtain ⟨socket, session⟩ := linked.serving serving
      rw [session]
      rfl
  | false =>
      rw [linked.idle serving]
      rfl

end Debuggee.Debugger
