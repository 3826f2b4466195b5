import Debuggee.Proofs.Debugger.Handling
import Debuggee.Proofs.Debugger.Told

/-!
Attaching a strategy while a session is open. The call returns once the client of that session has
said that its configuration is done; one flag serves all sessions, and what the client of an earlier
one says, however late, does not count.
-/

namespace Debuggee

def sessions (effects : List Effect) : Nat :=
  (boundaries effects).count .opening

theorem sessions_append (effects later : List Effect) :
    sessions (effects ++ later) = sessions effects + sessions later := by
  rw [sessions, boundaries_append, List.count_append]
  rfl

theorem sessions_of_silent {effects : List Effect}
    (silent : ∀ effect ∈ effects, effect.isOfConnection = false) : sessions effects = 0 := by
  rw [sessions, boundaries_of_silent silent]
  rfl

theorem Connection.isReleased_iff {connection : Connection} :
    connection.isReleased = true ↔
      connection.connected = false ∨ connection.configured = true ∨
        connection.terminated = true := by
  rw [isReleased]
  cases connection.connected <;> cases connection.configured <;> simp

namespace Debugger

variable {before after debugger : Debugger} {action : Action} {effects : List Effect}

def returned (debugger : Debugger) : Nat :=
  debugger.attachments.countP (·.2 = .returned)

/-- A client has said that its configuration is done since the last session was opened. -/
def ConfiguredSince (first : Debugger) (actions : List Action) : Prop :=
  ∃ earlier done later, actions = earlier ++ done :: later ∧
    (first.after earlier).completes done = true ∧
    sessions (first.effects earlier) = sessions (first.effects actions)

theorem isAside_of_completes (completes : debugger.completes action = true) :
    action.isAside = true := by
  cases action with
  | start options => contradiction
  | befall occurrence => contradiction
  | _ => rfl

theorem sessions_of_completes (completes : debugger.completes action = true) :
    sessions (debugger.perform action).2 = 0 :=
  sessions_of_silent (debugger.aside_perform (isAside_of_completes completes)).silent

theorem configuredSince_concat_iff (first : Debugger) (actions : List Action) (action : Action) :
    ConfiguredSince first (actions ++ [action]) ↔
      (first.after actions).completes action = true ∨
        ConfiguredSince first actions ∧ sessions ((first.after actions).perform action).2 = 0 := by
  constructor
  · rintro ⟨earlier, done, later, split, completes, same⟩
    rw [effects_concat, sessions_append] at same
    -- Either the last action is the word itself, or the word came before it.
    rcases List.eq_nil_or_concat later with last | ⟨between, final, inner⟩
    · subst last
      obtain ⟨whole, only⟩ := List.append_inj' split rfl
      cases only
      subst whole
      exact Or.inl completes
    · rw [List.concat_eq_append] at inner
      subst inner
      rw [← List.cons_append, ← List.append_assoc] at split
      obtain ⟨whole, only⟩ := List.append_inj' split rfl
      subst whole
      have least : sessions (first.effects earlier) ≤
          sessions (first.effects (earlier ++ done :: between)) := by
        rw [effects_append, sessions_append]
        exact Nat.le_add_right _ _
      refine Or.inr ⟨⟨earlier, done, between, rfl, completes, ?_⟩, ?_⟩
      · omega
      · omega
  · rintro (completes | ⟨⟨earlier, done, later, split, completes, same⟩, unopened⟩)
    · refine ⟨actions, action, [], rfl, completes, ?_⟩
      rw [effects_concat, sessions_append, sessions_of_completes completes]
      rfl
    · refine ⟨earlier, done, later ++ [action], ?_, completes, ?_⟩
      · rw [split, List.append_assoc, List.cons_append]
      · rw [effects_concat, sessions_append, unopened, same]
        rfl

theorem Move.configured (sound : before.Sound) (move : Move before action after effects) :
    (after.connection.configured = (before.connection.configured || before.completes action) ∧
        after.connection.terminated = before.connection.terminated ∧ sessions effects = 0) ∨
      (after.connection = ⟨true, true, false, false⟩ ∧ before.phase.hasReader = false ∧
        sessions effects = 1 ∧ before.completes action = false) ∨
      (after.connection.configured = true ∧ after.connection.terminated = true ∧
        sessions effects = 0) := by
  cases move with
  | refused _ => exact Or.inl ⟨(Bool.or_false _).symm, rfl, rfl⟩
  | bind _ _ => exact Or.inl ⟨(Bool.or_false _).symm, rfl, rfl⟩
  | dial _ _ => exact Or.inl ⟨(Bool.or_false _).symm, rfl, rfl⟩
  | aside _ aside =>
      refine Or.inl ⟨?_, ?_, sessions_of_silent aside.silent⟩
      · rw [aside.connection]
        cases before.completes action with
        | true => simp [Connection.markConfigured]
        | false => simp
      · rw [aside.connection]
        split <;> rfl
  | advance advance =>
      have quiet := sessions_of_silent before.silent_finish
      cases advance with
      | passed _ => exact Or.inl ⟨(Bool.or_false _).symm, rfl, rfl⟩
      | cancelled => exact Or.inl ⟨(Bool.or_false _).symm, rfl, rfl⟩
      | @bound options address _ =>
          obtain ⟨_, _, same⟩ := before.advertise_eq options address
          rw [same]
          exact Or.inl ⟨(Bool.or_false _).symm, rfl, rfl⟩
      | unbound _ => exact Or.inr (Or.inr ⟨rfl, rfl, quiet⟩)
      | @opened mode _ waiting _ =>
          have going := sound.governs.terminated
          rw [waiting, decide_eq_false mode.awaiting_ne_finished] at going
          refine Or.inr (Or.inl ⟨?_, ?_, rfl, rfl⟩)
          · simp only [openSession, Connection.opened, going]
          · rw [waiting]
            cases mode <;> rfl
      | closed _ => exact Or.inl ⟨(Bool.or_false _).symm, rfl, rfl⟩
      | resumed _ _ => exact Or.inl ⟨(Bool.or_false _).symm, rfl, rfl⟩
      | finished _ _ => exact Or.inr (Or.inr ⟨rfl, rfl, quiet⟩)

/-- The flag tells whether the client of the last session has said so, until the very end. -/
theorem configured_iff (config : Config) (pid : UInt32)
    (directory : Option Discovery.Directory) (actions : List Action) :
    ((fresh config pid directory).after actions).connection.configured = true ↔
      ((fresh config pid directory).after actions).connection.terminated = true ∨
        ConfiguredSince (fresh config pid directory) actions := by
  induction actions using List.reverseRecOn with
  | nil =>
      refine iff_of_false Bool.false_ne_true ?_
      rintro (ended | ⟨earlier, done, later, split, _⟩)
      · contradiction
      · simp at split
  | append_singleton actions action ih =>
      -- Both sides take the same turn: a word sets them, an opening clears them, the end sets them.
      have move := move_perform ((fresh config pid directory).after actions) action
      rw [after_concat, configuredSince_concat_iff]
      rcases move.configured (sound_after config pid directory actions) with
        ⟨configured, terminated, unopened⟩ | ⟨connection, _, opened, uncompleted⟩ |
        ⟨configured, terminated, _⟩
      · rw [configured, terminated, unopened, Bool.or_eq_true, ih]
        tauto
      · rw [connection, opened, uncompleted]
        simp
      · rw [configured, terminated]
        simp

theorem returned_publishFirst (handoff : Handoff Strategy)
    (attachments : List (Strategy × AttachStage)) :
    (publishFirst handoff attachments).2.countP (·.2 = .returned) =
      attachments.countP (·.2 = .returned) := by
  induction attachments with
  | nil => rfl
  | cons attachment attachments ih =>
      obtain ⟨strategy, stage⟩ := attachment
      cases stage with
      | inLine =>
          rw [publishFirst]
          cases handoff.publish? strategy with
          | none => rfl
          | some _ => simp
      | waiting =>
          rw [publishFirst, List.countP_cons, List.countP_cons, ih]
          intro _ inLine
          cases inLine
      | returned =>
          rw [publishFirst, List.countP_cons, List.countP_cons, ih]
          intro _ inLine
          cases inLine

theorem returned_release (held : debugger.connection.isReleased = false) :
    debugger.release.returned = debugger.returned := by
  simp [release, returned, held]

theorem isReleased_of_returned (grows : debugger.returned < (debugger.perform action).1.returned) :
    debugger.connection.isReleased = true := by
  by_cases other : action.attaches = false
  · have attached := ((move_perform debugger action).attached other).1
    rw [returned, returned, attached] at grows
    omega
  · cases action with
    | enter strategy =>
        rw [perform] at grows
        split at grows
        · simp [returned, enter] at grows
        · exact absurd grows (Nat.lt_irrefl _)
    | takePlace =>
        have same := returned_publishFirst debugger.handoff debugger.attachments
        simp only [perform, takePlace, returned, same] at grows
        omega
    | release =>
        by_contra held
        have same := returned_release (eq_false_of_ne_true held)
        simp only [perform, same] at grows
        omega
    | leave name =>
        rw [perform] at grows
        split at grows
        · have fewer : (debugger.attachments.filter (·.1.name ≠ name)).countP (·.2 = .returned) ≤
              debugger.attachments.countP (·.2 = .returned) :=
            List.Sublist.countP_le List.filter_sublist
          simp only [returned, leave] at grows
          omega
        · exact absurd grows (Nat.lt_irrefl _)
    | _ => exact absurd rfl other

/--
While a session is open, a call that attaches a strategy returns only if a client has said that its
configuration is done since that session was opened. When a session is opened nobody listens to the
client of an earlier one any more, and what was said before is forgotten. Once the client has said
it, saying it again changes nothing.
-/
theorem configuration_gates_session (config : Config) (pid : UInt32)
    (directory : Option Discovery.Directory) (actions : List Action) (action : Action) :
    let first := fresh config pid directory
    let before := first.after actions
    let after := (before.perform action).1
    (before.returned < after.returned →
      before.phase.isOpen = false ∨ ConfiguredSince first actions ∨
        before.connection.terminated = true) ∧
    (sessions (before.perform action).2 ≠ 0 →
      before.phase.hasReader = false ∧ after.connection = ⟨true, true, false, false⟩ ∧
        ¬ ConfiguredSince first (actions ++ [action])) ∧
    (before.completes action = true → ConfiguredSince first actions →
      after.connection = before.connection) := by
  intro first before after
  have sound : before.Sound := sound_after config pid directory actions
  have move : Move before action after (before.perform action).2 := move_perform before action
  have configured : before.connection.configured = true ↔ _ :=
    configured_iff config pid directory actions
  refine ⟨?_, ?_, ?_⟩
  · intro grows
    have free := isReleased_of_returned grows
    rcases Connection.isReleased_iff.mp free with closed | said | ended
    · rw [sound.governs.connected] at closed
      exact Or.inl closed
    · rcases configured.mp said with ended | since
      · exact Or.inr (Or.inr ended)
      · exact Or.inr (Or.inl since)
    · exact Or.inr (Or.inr ended)
  · intro opens
    rcases move.configured sound with ⟨_, _, unopened⟩ | ⟨connection, unread, one, uncompleted⟩ |
      ⟨_, _, unopened⟩
    · contradiction
    · refine ⟨unread, connection, ?_⟩
      rw [configuredSince_concat_iff]
      rintro (completes | ⟨_, unopened⟩)
      · have other : (first.after actions).completes action = false := uncompleted
        rw [other] at completes
        contradiction
      · contradiction
    · contradiction
  · intro completes said
    have aside := before.aside_perform (isAside_of_completes completes)
    have known := configured.mpr (Or.inr said)
    have connection : after.connection = _ := aside.connection
    rw [connection, if_pos completes, Connection.markConfigured, ← known]

def configuring : List Action :=
  [.start ⟨.listen, "", 0, false, none⟩, .befall (.bound (.ok ⟨"127.0.0.1", 4711, false⟩)),
    .befall (.reached { socket := 1 }), .enter (.helpless "run"), .takePlace,
    .dispatch (.request ⟨1, .configurationDone⟩)]

theorem configuration_gates_session_of_word :
    ((fresh {} 7 none).after configuring).returned <
        (((fresh {} 7 none).after configuring).perform .release).1.returned ∧
      ((fresh {} 7 none).after configuring).phase.isOpen = true ∧
      ConfiguredSince (fresh {} 7 none) configuring := by
  have grows : ((fresh {} 7 none).after configuring).returned <
      (((fresh {} 7 none).after configuring).perform .release).1.returned := by decide
  have opened : ((fresh {} 7 none).after configuring).phase.isOpen = true := by decide
  have going : ((fresh {} 7 none).after configuring).connection.terminated = false := by decide
  refine ⟨grows, opened, ?_⟩
  rcases (configuration_gates_session {} 7 none configuring .release).1 grows with
    closed | said | ended
  · rw [opened] at closed
    contradiction
  · exact said
  · rw [going] at ended
    contradiction

end Debugger

end Debuggee
