import Debuggee.Proofs.Debugger.History

/-!
The steps of the connection. A step opens a session, ends one, has the connection listen or ends it;
what each of them needs is said once, and nothing else is known of a step later on.
-/

namespace Debuggee

/-- What an occurrence makes of the canceller, unless it opens a session. -/
structure Canceller.Follows (before : Canceller Nat) (occurrence : Occurrence)
    (after : Canceller Nat) : Prop where
  socket : before.socket = none → after.socket = none
  stopped : after.cancelled = true → before.cancelled = true ∨ occurrence.stops = true

namespace Canceller

variable {canceller after : Canceller Nat} {attempt : Attempt Nat}

theorem Follows.refl (canceller : Canceller Nat) (occurrence : Occurrence) :
    canceller.Follows occurrence canceller :=
  ⟨id, Or.inl⟩

theorem register_ok {socket : Nat} {prepared : Except String Unit}
    (registered : canceller.register socket prepared = .ok after) :
    canceller.cancelled = false ∧ after = { canceller with socket := some socket } := by
  unfold register at registered
  split at registered
  · contradiction
  · rename_i uncancelled
    split at registered
    · contradiction
    · cases registered
      exact ⟨eq_false_of_ne_true uncancelled, rfl⟩

theorem establish_cases (canceller : Canceller Nat) (attempt : Attempt Nat) :
    (canceller.cancelled = false ∧ canceller.establish attempt =
        (.ok (), { canceller with socket := some attempt.socket })) ∨
      ∃ error after, canceller.establish attempt = (.error error, after) ∧
        canceller.Follows (.reached attempt) after := by
  -- With its fields in sight the flag can be replaced where the match looks at it.
  obtain ⟨cancelled, socket, stopped⟩ := canceller
  unfold establish
  split
  · exact Or.inr ⟨_, _, rfl, .refl _ _⟩
  · split
    · exact Or.inr ⟨_, _, rfl, .refl _ _⟩
    · rename_i registered done
      obtain ⟨rfl, rfl⟩ := register_ok done
      by_cases meanwhile : attempt.cancelledMeanwhile = true
      · have stops : (Occurrence.reached attempt).stops = true := meanwhile
        rw [if_pos meanwhile]
        cases attempt.handshake with
        | ok _ => exact Or.inr ⟨_, _, rfl, fun _ => rfl, fun _ => Or.inr stops⟩
        | error _ => exact Or.inr ⟨_, _, rfl, fun _ => rfl, fun _ => Or.inr stops⟩
      · rw [if_neg meanwhile]
        cases attempt.handshake with
        | ok _ => exact Or.inl ⟨rfl, rfl⟩
        | error _ => exact Or.inr ⟨_, _, rfl, fun _ => rfl, Or.inl⟩

end Canceller

namespace Debugger

def IsLast (canceller : Canceller Nat) (phase : Phase) : Prop :=
  phase = .dialling ∨ phase = .leaving .connect ∨
    (phase = .listening ∨ phase = .leaving .listen) ∧ canceller.cancelled = true

inductive Advance (debugger : Debugger) : Occurrence → Debugger → List Effect → Prop where
  | passed {occurrence : Occurrence}
      (unbound : debugger.phase = .binding → ∀ outcome, occurrence ≠ .bound outcome) :
      Advance debugger occurrence debugger []
  | cancelled :
      Advance debugger .cancel { debugger with canceller := debugger.canceller.cancel } []
  | bound {options : StartOptions} {address : Address} (binding : debugger.phase = .binding) :
      Advance debugger (.bound (.ok address))
        { debugger.advertise options address with phase := .listening } [.address (.ok address)]
  | unbound {error : TransportError} (binding : debugger.phase = .binding) :
      Advance debugger (.bound (.error error)) debugger.finish.1
        (.address (.error error) :: debugger.finish.2)
  | opened {mode : SocketMode} {attempt : Attempt Nat} (waiting : debugger.phase = mode.awaiting)
      (uncancelled : debugger.canceller.cancelled = false) :
      Advance debugger (.reached attempt)
        ({ debugger with
          canceller := { debugger.canceller with socket := some attempt.socket } }.openSession
            mode).1 [.sessionOpened]
  | closed {mode : SocketMode} (serving : debugger.phase = .inSession mode) :
      Advance debugger .hungUp (debugger.closeSession mode).1
        [.sessionClosed debugger.queue.pending.length]
  | resumed {occurrence : Occurrence} {canceller : Canceller Nat}
      (listening : debugger.phase = .listening ∨ debugger.phase = .leaving .listen)
      (follows : debugger.canceller.Follows occurrence canceller) :
      Advance debugger occurrence { debugger with canceller := canceller, phase := .listening } []
  | finished {occurrence : Occurrence} {canceller : Canceller Nat}
      (last : IsLast canceller debugger.phase)
      (follows : debugger.canceller.Follows occurrence canceller) :
      Advance debugger occurrence { debugger with canceller := canceller }.finish.1
        debugger.finish.2

variable {debugger : Debugger} {occurrence : Occurrence} {canceller : Canceller Nat}

theorem advance_listenOn
    (listening : debugger.phase = .listening ∨ debugger.phase = .leaving .listen)
    (follows : debugger.canceller.Follows occurrence canceller) :
    Advance debugger occurrence { debugger with canceller := canceller }.listenOn.1
      { debugger with canceller := canceller }.listenOn.2 := by
  unfold listenOn
  by_cases told : canceller.cancelled = true
  · rw [if_pos told]
    exact .finished (Or.inr (Or.inr ⟨listening, told⟩)) follows
  · rw [if_neg told]
    exact .resumed listening follows

theorem advance_meet {mode : SocketMode} (waiting : debugger.phase = mode.awaiting)
    (attempt : Attempt Nat) :
    Advance debugger (.reached attempt) (debugger.meet mode attempt).1
      (debugger.meet mode attempt).2 := by
  unfold meet
  by_cases told : debugger.canceller.cancelled = true
  · rw [if_pos told]
    refine .finished ?_ (.refl debugger.canceller _)
    cases mode with
    | connect => exact Or.inl waiting
    | listen => exact Or.inr (Or.inr ⟨Or.inl waiting, told⟩)
  · rw [if_neg told]
    rcases debugger.canceller.establish_cases attempt with
      ⟨uncancelled, ready⟩ | ⟨error, canceller, failed, follows⟩
    · rw [ready]
      exact .opened waiting uncancelled
    · rw [failed]
      cases mode with
      | connect => exact .finished (Or.inl waiting) follows
      | listen => exact advance_listenOn (Or.inl waiting) follows

theorem advance_step (debugger : Debugger) (occurrence : Occurrence) :
    Advance debugger occurrence (debugger.step occurrence).1 (debugger.step occurrence).2 := by
  have same := Canceller.Follows.refl debugger.canceller occurrence
  unfold step
  split
  · exact .cancelled
  · rename_i binding
    exact .bound binding
  · rename_i binding
    exact .unbound binding
  · rename_i dialling
    exact advance_meet dialling _
  · rename_i listening
    exact advance_meet listening _
  · rename_i dialling
    exact .finished (Or.inl dialling) same
  · rename_i listening
    exact advance_listenOn (Or.inl listening) same
  · rename_i serving
    exact .closed serving
  · rename_i mode leaving
    cases mode with
    | connect => exact .finished (Or.inr (Or.inl leaving)) same
    | listen => exact advance_listenOn (Or.inr leaving) same
  · rename_i notBound notRefused _ _ _ _ _ _
    refine .passed ?_
    intro binding outcome isBound
    cases outcome with
    | ok address => exact notBound address binding isBound
    | error error => exact notRefused error binding isBound

inductive Move (debugger : Debugger) : Action → Debugger → List Effect → Prop where
  | refused {options : StartOptions} (known : debugger.options ≠ none) :
      Move debugger (.start options) debugger []
  | bind {options : StartOptions} (unknown : debugger.options = none)
      (listens : options.mode = .listen) :
      Move debugger (.start options)
        { debugger with options := some options, phase := .binding } []
  | dial {options : StartOptions} (unknown : debugger.options = none)
      (connects : options.mode = .connect) :
      Move debugger (.start options)
        { debugger with options := some options, phase := .dialling }
        [.address (.ok (Address.nominal options.host options.port))]
  | advance {occurrence : Occurrence} {after : Debugger} {effects : List Effect}
      (advance : Advance debugger occurrence after effects) :
      Move debugger (.befall occurrence) after effects
  | aside {action : Action} {after : Debugger} {effects : List Effect}
      (isAside : action.isAside = true) (aside : Aside debugger action after effects) :
      Move debugger action after effects

theorem move_perform (debugger : Debugger) (action : Action) :
    Move debugger action (debugger.perform action).1 (debugger.perform action).2 := by
  cases action with
  | start options =>
      rw [perform, start]
      by_cases known : debugger.options.isSome = true
      · rw [if_pos known]
        exact .refused (Option.isSome_iff_ne_none.mp known)
      · rw [if_neg known]
        have unknown := Option.not_isSome_iff_eq_none.mp known
        cases mode : options.mode with
        | listen => exact .bind unknown mode
        | connect => exact .dial unknown mode
  | befall occurrence => exact .advance (debugger.advance_step occurrence)
  | _ => exact .aside rfl (debugger.aside_perform rfl)

theorem holds_after {Holds : Debugger → Prop}
    (kept : ∀ {before action after effects}, Holds before → Move before action after effects →
      Holds after)
    {debugger : Debugger} (first : Holds debugger) (actions : List Action) :
    Holds (debugger.after actions) := by
  induction actions using List.reverseRecOn with
  | nil => exact first
  | append_singleton actions action ih =>
      rw [after_concat]
      exact kept ih (move_perform _ action)

end Debugger

end Debuggee
