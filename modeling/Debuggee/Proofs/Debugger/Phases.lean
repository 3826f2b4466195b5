import Debuggee.Proofs.Debugger.Advance

/-!
What the phase of a debugger says about its parts. Queue, connection, canceller and handoff are
changed one by one, by whoever has to do with them; after any history they agree with the phase.
-/

namespace Debuggee

def Phase.Fits : Phase → Option SocketMode → Prop
  | .notStarted, mode => mode = none
  | .binding, mode => mode = some .listen
  | .dialling, mode => mode = some .connect
  | .listening, mode => mode = some .listen
  | .inSession served, mode => mode = some served
  | .leaving served, mode => mode = some served
  | .finished, mode => mode ≠ none

structure Phase.Governs (phase : Phase) (canceller : Canceller Nat)
    (queue : SendQueue ServerMessage) (connection : Connection) (handoff : Handoff Strategy) :
    Prop where
  active : queue.active = phase.isOpen
  connected : connection.connected = phase.isOpen
  terminated : connection.terminated = decide (phase = .finished)
  begun : phase.isOpen = true → handoff.sessionEnding = false
  left : ∀ mode, phase = .leaving mode → handoff.sessionEnding = true
  idle : phase.isOpen = false → queue.IsIdle
  cleared : phase.isOpen = false → canceller.socket = none
  finished : phase = .finished → connection.configured = true ∧ handoff.sessionEnding = true

namespace Phase

variable {phase later : Phase} {canceller changed : Canceller Nat}
  {queue : SendQueue ServerMessage} {connection : Connection} {handoff : Handoff Strategy}

theorem Fits.notStarted (fits : phase.Fits none) : phase = .notStarted := by
  cases phase with
  | notStarted => rfl
  | finished => contradiction
  | _ => contradiction

theorem Fits.started {mode : Option SocketMode} (fits : phase.Fits mode)
    (begun : phase ≠ .notStarted) : mode ≠ none := by
  intro unknown
  subst unknown
  exact begun fits.notStarted

theorem governs_fresh : Phase.notStarted.Governs {} {} {} {} := by
  constructor
  · rfl
  · rfl
  · rfl
  · intro begun
    contradiction
  · intro mode leaving
    contradiction
  · exact fun _ => ⟨rfl, rfl, rfl⟩
  · exact fun _ => rfl
  · intro finished
    contradiction

theorem Governs.wait (governs : phase.Governs canceller queue connection handoff)
    (quiet : phase.isOpen = false) (unfinished : phase ≠ .finished)
    (quietLater : later.isOpen = false) (unfinishedLater : later ≠ .finished)
    (past : ∀ mode, later ≠ .leaving mode)
    (cleared : canceller.socket = none → changed.socket = none) :
    later.Governs changed queue connection handoff := by
  constructor
  · rw [governs.active, quiet, quietLater]
  · rw [governs.connected, quiet, quietLater]
  · rw [governs.terminated, decide_eq_decide]
    exact iff_of_false unfinished unfinishedLater
  · intro begun
    rw [quietLater] at begun
    contradiction
  · intro mode leaving
    exact absurd leaving (past mode)
  · exact fun _ => governs.idle quiet
  · exact fun _ => cleared (governs.cleared quiet)
  · intro finished
    exact absurd finished unfinishedLater

theorem Governs.cancel (governs : phase.Governs canceller queue connection handoff) :
    phase.Governs canceller.cancel queue connection handoff :=
  ⟨governs.active, governs.connected, governs.terminated, governs.begun, governs.left,
    governs.idle, governs.cleared, governs.finished⟩

theorem Governs.openSession (governs : phase.Governs canceller queue connection handoff)
    (unfinished : phase ≠ .finished) (mode : SocketMode) :
    (Phase.inSession mode).Governs changed queue.activate connection.opened
      handoff.beginSession := by
  have going := governs.terminated
  rw [decide_eq_false unfinished] at going
  constructor
  · rfl
  · rfl
  · exact going
  · exact fun _ => rfl
  · intro mode leaving
    contradiction
  · intro quiet
    contradiction
  · intro quiet
    contradiction
  · intro finished
    contradiction

theorem Governs.closeSession {mode : SocketMode}
    (governs : (Phase.inSession mode).Governs canceller queue connection handoff) :
    (Phase.leaving mode).Governs canceller.clear queue.deactivate.2 connection.closed
      handoff.endSession := by
  constructor
  · rfl
  · rfl
  · exact governs.terminated
  · intro begun
    contradiction
  · exact fun _ _ => rfl
  · exact fun _ => ⟨rfl, rfl, rfl⟩
  · exact fun _ => rfl
  · intro finished
    contradiction

theorem governs_finish (cleared : canceller.socket = none) :
    Phase.finished.Governs canceller queue.deactivate.2 connection.terminate
      handoff.endSession := by
  constructor
  · rfl
  · rfl
  · rfl
  · intro begun
    contradiction
  · intro mode leaving
    contradiction
  · exact fun _ => ⟨rfl, rfl, rfl⟩
  · exact fun _ => cleared
  · exact fun _ => ⟨rfl, rfl⟩

end Phase

namespace Debugger

variable {before after debugger : Debugger} {action : Action} {effects : List Effect}
  {occurrence : Occurrence}

theorem Aside.governs (aside : Aside before action after effects)
    (governs : before.phase.Governs before.canceller before.queue before.connection
      before.handoff) :
    after.phase.Governs after.canceller after.queue after.connection after.handoff := by
  have connection := aside.connection
  rw [aside.phase, aside.canceller]
  constructor
  · rw [aside.active, governs.active]
  · rw [connection, ← governs.connected]
    split <;> rfl
  · rw [connection, ← governs.terminated]
    split <;> rfl
  · rw [aside.sessionEnding]
    exact governs.begun
  · rw [aside.sessionEnding]
    exact governs.left
  · intro quiet
    exact aside.idle (governs.idle quiet)
  · exact governs.cleared
  · intro finished
    rw [connection, aside.sessionEnding]
    refine ⟨?_, (governs.finished finished).2⟩
    split
    · rfl
    · exact (governs.finished finished).1

def mode? (debugger : Debugger) : Option SocketMode :=
  debugger.options.map (·.mode)

/-- What holds of a debugger after any history. -/
structure Sound (debugger : Debugger) : Prop where
  fits : debugger.phase.Fits debugger.mode?
  governs : debugger.phase.Governs debugger.canceller debugger.queue debugger.connection
    debugger.handoff

theorem sound_fresh (config : Config) (pid : UInt32) (directory : Option Discovery.Directory) :
    Sound (fresh config pid directory) :=
  ⟨rfl, Phase.governs_fresh⟩

theorem Sound.notStarted (sound : debugger.Sound) (unknown : debugger.options = none) :
    debugger.phase = .notStarted := by
  have fits := sound.fits
  rw [mode?, unknown] at fits
  exact fits.notStarted

theorem advertise_cases (debugger : Debugger) (options : StartOptions) (address : Address) :
    debugger.advertise options address = debugger ∨
      ∃ entries content, debugger.directory = some entries ∧
        debugger.advertise options address = { debugger with
          directory := some
            (Discovery.put entries (Bytes.ofString (Discovery.fileName debugger.pid))
              (.file content))
          discoverable := true } := by
  unfold advertise Discovery.write
  cases known : debugger.directory with
  | none => exact Or.inl rfl
  | some entries =>
      dsimp only
      split
      · rename_i written
        split at written
        · contradiction
        · cases written
          exact Or.inr ⟨entries, _, rfl, rfl⟩
      · exact Or.inl rfl

theorem advertise_eq (debugger : Debugger) (options : StartOptions) (address : Address) :
    ∃ directory discoverable, debugger.advertise options address =
      { debugger with directory := directory, discoverable := discoverable } := by
  rcases debugger.advertise_cases options address with same | ⟨entries, content, _, same⟩
  · exact ⟨debugger.directory, debugger.discoverable, same⟩
  · exact ⟨_, true, same⟩

theorem Advance.options (advance : Advance before occurrence after effects) :
    after.options = before.options := by
  cases advance with
  | @bound options address _ =>
      obtain ⟨_, _, same⟩ := before.advertise_eq options address
      rw [same]
  | _ => rfl

theorem IsLast.unfinished {canceller : Canceller Nat} {phase : Phase}
    (last : IsLast canceller phase) :
    phase.isOpen = false ∧ phase ≠ .finished ∧ phase ≠ .notStarted := by
  rcases last with same | same | ⟨same | same, _⟩ <;> subst same <;> simp [Phase.isOpen]

theorem Advance.fits (advance : Advance before occurrence after effects)
    {mode : Option SocketMode} (fits : before.phase.Fits mode) : after.phase.Fits mode := by
  cases advance with
  | passed _ => exact fits
  | cancelled => exact fits
  | bound binding =>
      rw [binding] at fits
      exact fits
  | unbound binding => exact fits.started (by simp [binding])
  | @opened served _ waiting _ =>
      rw [waiting] at fits
      cases served with
      | connect => exact fits
      | listen => exact fits
  | closed serving =>
      rw [serving] at fits
      exact fits
  | resumed listening _ =>
      rcases listening with same | same
      · rw [same] at fits
        exact fits
      · rw [same] at fits
        exact fits
  | finished last _ => exact fits.started last.unfinished.2.2

theorem Advance.governs (advance : Advance before occurrence after effects)
    (governs : before.phase.Governs before.canceller before.queue before.connection
      before.handoff) :
    after.phase.Governs after.canceller after.queue after.connection after.handoff := by
  cases advance with
  | passed _ => exact governs
  | cancelled => exact governs.cancel
  | @bound options address binding =>
      rw [binding] at governs
      obtain ⟨_, _, same⟩ := before.advertise_eq options address
      rw [same]
      exact governs.wait rfl (by simp) rfl (by simp) (by simp) id
  | unbound binding =>
      rw [binding] at governs
      exact Phase.governs_finish (governs.cleared rfl)
  | @opened mode _ waiting _ =>
      have unfinished : before.phase ≠ .finished := by
        simp [waiting]
      exact governs.openSession unfinished mode
  | closed serving =>
      rw [serving] at governs
      exact governs.closeSession
  | resumed listening follows =>
      rcases listening with same | same
      · rw [same] at governs
        exact governs.wait rfl (by simp) rfl (by simp) (by simp) follows.socket
      · rw [same] at governs
        exact governs.wait rfl (by simp) rfl (by simp) (by simp) follows.socket
  | finished last follows =>
      exact Phase.governs_finish (follows.socket (governs.cleared last.unfinished.1))

theorem Sound.move (sound : before.Sound) (move : Move before action after effects) :
    after.Sound := by
  cases move with
  | refused _ => exact sound
  | bind unknown listens =>
      have governs := sound.governs
      rw [sound.notStarted unknown] at governs
      exact ⟨congrArg some listens, governs.wait rfl (by simp) rfl (by simp) (by simp) id⟩
  | dial unknown connects =>
      have governs := sound.governs
      rw [sound.notStarted unknown] at governs
      exact ⟨congrArg some connects, governs.wait rfl (by simp) rfl (by simp) (by simp) id⟩
  | advance advance =>
      refine ⟨?_, advance.governs sound.governs⟩
      rw [mode?, advance.options]
      exact advance.fits sound.fits
  | aside _ aside =>
      refine ⟨?_, aside.governs sound.governs⟩
      rw [mode?, aside.options, aside.phase]
      exact sound.fits

theorem Move.mode (move : Move before action after effects) {mode : SocketMode}
    (known : before.mode? = some mode) : after.mode? = some mode := by
  rw [mode?] at known ⊢
  cases move with
  | refused _ => exact known
  | bind unknown _ => simp [unknown] at known
  | dial unknown _ => simp [unknown] at known
  | advance advance => rwa [advance.options]
  | aside _ aside => rwa [aside.options]

theorem Move.attached (move : Move before action after effects)
    (other : action.attaches = false) :
    after.attachments = before.attachments ∧ after.handoff.strategy = before.handoff.strategy := by
  cases move with
  | refused _ => exact ⟨rfl, rfl⟩
  | bind _ _ => exact ⟨rfl, rfl⟩
  | dial _ _ => exact ⟨rfl, rfl⟩
  | aside _ aside => exact ⟨aside.attachments other, aside.strategy other⟩
  | advance advance =>
      cases advance with
      | @bound options address _ =>
          obtain ⟨_, _, same⟩ := before.advertise_eq options address
          rw [same]
          exact ⟨rfl, rfl⟩
      | _ => exact ⟨rfl, rfl⟩

theorem mode_after {mode : SocketMode} (known : debugger.mode? = some mode)
    (actions : List Action) : (debugger.after actions).mode? = some mode :=
  @holds_after (fun debugger => debugger.mode? = some mode)
    (fun before move => move.mode before) debugger known actions

theorem sound_after (config : Config) (pid : UInt32) (directory : Option Discovery.Directory)
    (actions : List Action) : Sound ((fresh config pid directory).after actions) :=
  holds_after Sound.move (sound_fresh config pid directory) actions

end Debugger

end Debuggee
