import Debuggee.Proofs.Debugger.Directory

/-!
The life of a connection. It ends once, for a reason; then nothing of its sessions is left, its
discovery file is gone, and whatever is asked of the debugger afterwards is refused or returns.
-/

namespace Debuggee.Debugger

variable {before after debugger : Debugger} {action : Action} {effects : List Effect}

theorem Move.options (move : Move before action after effects) :
    after.options = before.options.or action.started? := by
  cases move with
  | refused known =>
      obtain ⟨options, same⟩ := Option.ne_none_iff_exists'.mp known
      simp [same]
  | bind unknown _ => simp [unknown, Action.started?]
  | dial unknown _ => simp [unknown, Action.started?]
  | advance advance => simp [advance.options, Action.started?]
  | aside isAside aside =>
      rw [aside.options]
      cases action with
      | start options => contradiction
      | _ => simp [Action.started?]

theorem options_after (config : Config) (pid : UInt32) (directory : Option Discovery.Directory)
    (actions : List Action) :
    ((fresh config pid directory).after actions).options =
      actions.findSome? Action.started? := by
  induction actions using List.reverseRecOn with
  | nil => rfl
  | append_singleton actions action ih =>
      have move := move_perform ((fresh config pid directory).after actions) action
      rw [after_concat, move.options, ih, List.findSome?_append]
      simp

theorem Move.cancelled (move : Move before action after effects)
    (told : after.canceller.cancelled = true) :
    before.canceller.cancelled = true ∨ action.stops = true := by
  cases move with
  | refused _ => exact Or.inl told
  | bind _ _ => exact Or.inl told
  | dial _ _ => exact Or.inl told
  | aside _ aside =>
      rw [aside.canceller] at told
      exact Or.inl told
  | advance advance =>
      cases advance with
      | passed _ => exact Or.inl told
      | cancelled => exact Or.inr rfl
      | @bound options address _ =>
          obtain ⟨_, _, same⟩ := before.advertise_eq options address
          rw [same] at told
          exact Or.inl told
      | unbound _ => exact Or.inl told
      | opened _ _ => exact Or.inl told
      | closed _ => exact Or.inl told
      | resumed _ follows => exact follows.stopped told
      | finished _ follows => exact follows.stopped told

theorem cancelled_after (debugger : Debugger) (actions : List Action)
    (told : (debugger.after actions).canceller.cancelled = true) :
    debugger.canceller.cancelled = true ∨ ∃ action ∈ actions, action.stops = true := by
  induction actions using List.reverseRecOn with
  | nil => exact Or.inl told
  | append_singleton actions action ih =>
      rw [after_concat] at told
      rcases (move_perform _ action).cancelled told with before | stops
      · rcases ih before with already | ⟨earlier, member, stops⟩
        · exact Or.inl already
        · exact Or.inr ⟨earlier, List.mem_append_left _ member, stops⟩
      · exact Or.inr ⟨action, by simp, stops⟩

theorem Move.finished (sound : before.Sound) (move : Move before action after effects)
    (finished : before.phase = .finished) : after.phase = .finished := by
  cases move with
  | refused _ => exact finished
  | bind unknown _ => simp [sound.notStarted unknown] at finished
  | dial unknown _ => simp [sound.notStarted unknown] at finished
  | aside _ aside => rw [aside.phase, finished]
  | advance advance =>
      cases advance with
      | passed _ => exact finished
      | cancelled => exact finished
      | bound binding => simp [binding] at finished
      | unbound _ => rfl
      | opened waiting _ => simp [waiting] at finished
      | closed serving => simp [serving] at finished
      | resumed listening _ => simp [finished] at listening
      | finished _ _ => rfl

theorem Move.end_cases (move : Move before action after effects)
    (unfinished : before.phase ≠ .finished) (finished : after.phase = .finished) :
    (∃ occurrence, action = .befall occurrence) ∧
      (before.phase.Fits (some .listen) →
        after.canceller.cancelled = true ∨
          before.phase = .binding ∧ ∃ error, addresses effects = [.error error]) := by
  cases move with
  | refused _ => contradiction
  | bind _ _ => contradiction
  | dial _ _ => contradiction
  | aside _ aside =>
      rw [aside.phase] at finished
      contradiction
  | @advance occurrence _ _ advance =>
      refine ⟨⟨occurrence, rfl⟩, ?_⟩
      intro listens
      cases advance with
      | passed _ => contradiction
      | cancelled => contradiction
      | bound _ => contradiction
      | @unbound error binding =>
          have quiet := addresses_of_silent before.silent_finish
          exact Or.inr ⟨binding, error, congrArg (List.cons _) quiet⟩
      | opened _ _ => contradiction
      | closed _ => contradiction
      | resumed _ _ => contradiction
      | finished last _ =>
          rcases last with dialling | leaving | ⟨_, cancelled⟩
          · rw [dialling] at listens
            have wrong : some SocketMode.listen = some .connect := listens
            contradiction
          · rw [leaving] at listens
            have wrong : some SocketMode.listen = some .connect := listens
            contradiction
          · exact Or.inl cancelled

theorem last_step {debugger : Debugger} (unfinished : debugger.phase ≠ .finished)
    {actions : List Action} (finished : (debugger.after actions).phase = .finished) :
    ∃ earlier occurrence later, actions = earlier ++ .befall occurrence :: later ∧
      (debugger.after earlier).phase ≠ .finished ∧
      ((debugger.after earlier).step occurrence).1.phase = .finished := by
  induction actions using List.reverseRecOn with
  | nil => contradiction
  | append_singleton actions action ih =>
      by_cases already : (debugger.after actions).phase = .finished
      · obtain ⟨earlier, occurrence, later, split, before, ends⟩ := ih already
        refine ⟨earlier, occurrence, later ++ [action], ?_, before, ends⟩
        rw [split, List.append_assoc, List.cons_append]
      · rw [after_concat] at finished
        obtain ⟨⟨occurrence, same⟩, _⟩ := (move_perform _ action).end_cases already finished
        subst same
        exact ⟨actions, occurrence, [], rfl, already, finished⟩

/-- A connection that has listened ends because it was told to, unless it never got an address. -/
theorem stopped_or_unbound (sound : debugger.Sound)
    (unaddressed : debugger.phase.isAddressed = false)
    (uncancelled : debugger.canceller.cancelled = false) {actions : List Action}
    (finished : (debugger.after actions).phase = .finished)
    (listens : (debugger.after actions).mode? = some .listen) :
    (∃ action ∈ actions, action.stops = true) ∨
      ∃ error, addresses (debugger.effects actions) = [.error error] := by
  have unfinished : debugger.phase ≠ .finished := by
    intro same
    rw [same] at unaddressed
    contradiction
  -- All that matters happens in the last step: what was told before and after it is known by phase.
  obtain ⟨earlier, occurrence, later, split, going, ends⟩ := last_step unfinished finished
  have parts : actions = (earlier ++ [.befall occurrence]) ++ later := by simp [split]
  have advance := (debugger.after earlier).advance_step occurrence
  have move := move_perform (debugger.after earlier) (.befall occurrence)
  have soundEarlier := holds_after Sound.move sound earlier
  have soundThen := soundEarlier.move move
  have listened : (debugger.after earlier).mode? = some .listen := by
    cases known : (debugger.after earlier).mode? with
    | none =>
        have fits := advance.fits soundEarlier.fits
        rw [known] at fits
        rw [fits.notStarted] at ends
        contradiction
    | some mode =>
        have still := mode_after (move.mode known) later
        rw [parts, after_append, after_concat, still] at listens
        exact listens
  have fits := soundEarlier.fits
  rw [listened] at fits
  rcases (move.end_cases going ends).2 fits with cancelled | ⟨binding, error, told⟩
  · left
    rw [← after_concat] at cancelled
    rcases cancelled_after debugger (earlier ++ [.befall occurrence]) cancelled with
      already | ⟨action, member, stops⟩
    · rw [uncancelled] at already
      contradiction
    · exact ⟨action, by rw [parts]; exact List.mem_append_left later member, stops⟩
  · right
    have before := addresses_length sound earlier
    rw [binding, unaddressed] at before
    have nothing : addresses (debugger.effects earlier) = [] :=
      List.length_eq_zero_iff.mp before
    have addressed : ((debugger.after earlier).step occurrence).1.phase.isAddressed = true := by
      rw [ends]
      rfl
    have silent := addresses_of_addressed soundThen addressed later
    refine ⟨error, ?_⟩
    rw [parts, effects_append, effects_concat, after_concat, addresses_append, addresses_append,
      nothing, told, silent]
    rfl

theorem Move.endings (move : Move before action after effects)
    (other : ∀ name, action ≠ .leave name) :
    endings effects =
      if before.phase ≠ .finished ∧ after.phase = .finished then before.attachedName.toList
      else [] := by
  have still (same : after.phase = before.phase) :
      (if before.phase ≠ .finished ∧ after.phase = .finished then before.attachedName.toList
        else []) = [] := by
    apply if_neg
    rw [same]
    exact fun both => both.1 both.2
  have going (unfinished : after.phase ≠ .finished) :
      (if before.phase ≠ .finished ∧ after.phase = .finished then before.attachedName.toList
        else []) = [] :=
    if_neg fun both => unfinished both.2
  cases move with
  | refused _ => exact (still rfl).symm
  | bind _ _ => exact (going (by simp)).symm
  | dial _ _ => exact (going (by simp)).symm
  | aside _ aside =>
      rw [still aside.phase]
      apply List.filterMap_eq_nil_iff.mpr
      intro effect member
      cases effect with
      | ended name => exact absurd (aside.ended name member) (other name)
      | _ => rfl
  | advance advance =>
      have told := before.endings_finish
      cases advance with
      | passed _ => exact (still rfl).symm
      | cancelled => exact (still rfl).symm
      | bound _ => exact (going (by simp)).symm
      | unbound binding =>
          rw [if_pos ⟨by simp [binding], rfl⟩]
          exact told
      | opened _ _ => exact (going (by simp [openSession])).symm
      | closed _ => exact (going (by simp [closeSession])).symm
      | resumed _ _ => exact (going (by simp)).symm
      | finished last _ =>
          rw [if_pos ⟨last.unfinished.2.1, rfl⟩]
          exact told

structure IsOver (debugger : Debugger) : Prop where
  finished : debugger.phase = .finished
  idle : debugger.queue.IsIdle
  disconnected : debugger.connection.connected = false
  terminated : debugger.connection.terminated = true
  sessionEnding : debugger.handoff.sessionEnding = true
  cleared : debugger.canceller.socket = none

structure IsClosed (debugger : Debugger) : Prop where
  refused : ∀ message, debugger.send message = (false, debugger)
  unseen : ∀ path line, debugger.lookup path line = none
  answered : ∀ message, (debugger.dispatch message).isSome = true
  released : ∀ attachment ∈ debugger.release.attachments, attachment.2 ≠ .waiting
  drained : debugger.queue.isDrained = true
  settled : debugger.connection.isClientSettled = true

theorem Sound.isOver (sound : debugger.Sound) (finished : debugger.phase = .finished) :
    debugger.IsOver := by
  have governs := sound.governs
  rw [finished] at governs
  exact ⟨finished, governs.idle rfl, governs.connected, governs.terminated,
    (governs.finished rfl).2, governs.cleared rfl⟩

theorem dispatch_isSome (ending : debugger.handoff.sessionEnding = true)
    (message : ClientMessage) : (debugger.dispatch message).isSome = true := by
  have goes (request : Request) : (debugger.forward request).isSome = true := by
    unfold forward Handoff.wait
    cases debugger.handoff.strategy with
    | none =>
        rw [ending]
        rfl
    | some strategy =>
        dsimp only
        split <;> rfl
  cases message with
  | output event => rfl
  | request request =>
      obtain ⟨seq, command⟩ := request
      cases command with
      | configurationDone => rfl
      | setBreakpoints arguments => rfl
      | _ => exact goes _

theorem not_waiting_of_release (free : debugger.connection.isReleased = true) :
    ∀ attachment ∈ debugger.release.attachments, attachment.2 ≠ .waiting := by
  intro attachment member
  obtain ⟨⟨strategy, stage⟩, _, same⟩ := List.mem_map.mp member
  rw [← same]
  by_cases waits : stage = .waiting
  · simp [waits, free]
  · simp [waits]

theorem IsOver.isClosed (gone : debugger.IsOver) : debugger.IsClosed := by
  have inactive := gone.idle.inactive
  constructor
  case refused =>
    intro message
    simp [send, SendQueue.push, inactive]
  case unseen =>
    intro path line
    simp [lookup, inactive]
  case answered => exact dispatch_isSome gone.sessionEnding
  case released =>
    apply not_waiting_of_release
    simp [Connection.isReleased, gone.disconnected]
  case drained => simp [SendQueue.isDrained, inactive]
  case settled => simp [Connection.isClientSettled, gone.terminated]

theorem finished_after (sound : debugger.Sound) (finished : debugger.phase = .finished)
    (actions : List Action) : (debugger.after actions).phase = .finished := by
  induction actions using List.reverseRecOn with
  | nil => exact finished
  | append_singleton actions action ih =>
      rw [after_concat]
      exact (move_perform _ action).finished (holds_after Sound.move sound actions) ih

structure Lifecycle (first : Debugger) (actions : List Action) : Prop where
  started : (first.after actions).options = actions.findSome? Action.started?
  addressed : addresses (first.effects actions) = promised actions
  once : (first.after actions).phase = .finished → (promised actions).length = 1
  alternating : ∃ count, boundaries (first.effects actions) =
    (List.replicate count [Boundary.opening, Boundary.closing]).flatten ++
      if (first.after actions).phase.isOpen then [.opening] else []
  -- An open session has all its parts, and no part is left of one that has ended.
  whole : (first.after actions).queue.active = (first.after actions).phase.isOpen ∧
    (first.after actions).connection.connected = (first.after actions).phase.isOpen ∧
    ((first.after actions).phase.isOpen = true →
      (first.after actions).handoff.sessionEnding = false) ∧
    ((first.after actions).handoff.sessionEnding = true ↔
      (first.after actions).phase.isOpen = false ∧
        ((first.after actions).phase = .finished ∨ first.HasServed actions))
  single : (first.after actions).mode? = some .connect →
    (boundaries (first.effects actions)).count .opening ≤ 1
  stopped : (first.after actions).phase = .finished → (first.after actions).mode? = some .listen →
    (∃ address, promised actions = [.ok address]) → ∃ action ∈ actions, action.stops = true
  -- The attached strategy is told of the end when it comes, and of no other step.
  ended : (first.after actions).phase = .finished →
    ∃ earlier occurrence later, actions = earlier ++ .befall occurrence :: later ∧
      (first.after earlier).phase ≠ .finished ∧
      ((first.after earlier).step occurrence).1.phase = .finished ∧
      endings ((first.after earlier).step occurrence).2 = (first.after earlier).attachedName.toList
  unended : ∀ earlier action later, actions = earlier ++ action :: later →
    (∀ name, action ≠ .leave name) →
    (first.after earlier).phase = .finished ∨
      ((first.after earlier).perform action).1.phase ≠ .finished →
    endings ((first.after earlier).perform action).2 = []
  gone : (first.after actions).phase = .finished →
    ∀ later, (first.after (actions ++ later)).IsOver ∧ (first.after (actions ++ later)).IsClosed
  tidy : (first.after actions).phase = .finished →
    ∀ later, (first.after (actions ++ later)).directory =
      if (first.after (actions ++ later)).discoverable then
        first.directory.map fun entries => entries.filter (·.1 ≠ discoveryName first.pid)
      else first.directory

/-- The life of every debugger, whatever happens to it and in whatever order. -/
theorem lifecycle (config : Config) (pid : UInt32) (directory : Option Discovery.Directory)
    (actions : List Action) : Lifecycle (fresh config pid directory) actions := by
  have begins := sound_fresh config pid directory
  have sound := sound_after config pid directory actions
  have told := addresses_of_unknown begins rfl actions
  have going : (fresh config pid directory).phase ≠ .finished := by
    simp [fresh]
  constructor
  case started => exact options_after config pid directory actions
  case addressed => exact told
  case once =>
    intro finished
    have length := addresses_length begins actions
    rw [finished, told] at length
    exact length
  case alternating => exact boundaries_alternate begins rfl actions
  case whole =>
    have ending := sessionEnding_iff begins going rfl actions
    exact ⟨sound.governs.active, sound.governs.connected, sound.governs.begun, ending⟩
  case single =>
    intro connects
    have few := single_session begins actions (by simp [connects])
    have most : (fresh config pid directory).phase.chances = 1 := rfl
    omega
  case stopped =>
    intro finished listens bound
    rcases stopped_or_unbound begins rfl rfl finished listens with stops | ⟨error, failed⟩
    · exact stops
    · obtain ⟨address, promise⟩ := bound
      rw [told, promise] at failed
      simp at failed
  case ended =>
    intro finished
    obtain ⟨earlier, occurrence, later, split, before, ends⟩ := last_step going finished
    refine ⟨earlier, occurrence, later, split, before, ends, ?_⟩
    have move := move_perform ((fresh config pid directory).after earlier) (.befall occurrence)
    have ending := move.endings (by simp)
    rwa [if_pos ⟨before, ends⟩] at ending
  case unended =>
    intro earlier action later _ other aside
    have move := move_perform ((fresh config pid directory).after earlier) action
    rw [move.endings other, if_neg]
    rintro ⟨before, ends⟩
    exact aside.elim before fun open' => open' ends
  case gone =>
    intro finished later
    have still := finished_after sound finished later
    rw [← after_append] at still
    have gone := (sound_after config pid directory (actions ++ later)).isOver still
    exact ⟨gone, gone.isClosed⟩
  case tidy =>
    intro finished later
    have still := finished_after sound finished later
    rw [← after_append] at still
    have filed := filed_after config pid directory (actions ++ later)
    by_cases discoverable :
        ((fresh config pid directory).after (actions ++ later)).discoverable = true
    · rw [if_pos discoverable]
      exact filed.removed discoverable still
    · rw [if_neg discoverable]
      exact filed.unwritten (eq_false_of_ne_true discoverable)

example :
    let served := [.reached { socket := 1 }, .hungUp, .readOut, .reached { socket := 2 }, .cancel,
      .hungUp, .readOut]
    let actions := .start ⟨.listen, "", 0, false, none⟩ ::
      (.bound (.ok ⟨"127.0.0.1", 4711, false⟩) :: served).map Action.befall
    ((fresh {} 7 (some [])).after actions).phase = .finished ∧
      ((fresh {} 7 (some [])).after actions).directory = some [] ∧
      boundaries ((fresh {} 7 (some [])).effects actions) =
        [.opening, .closing, .opening, .closing] := by
  decide

end Debuggee.Debugger
