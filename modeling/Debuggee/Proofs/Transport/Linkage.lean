import Debuggee.Session.Transport
import Mathlib

/-!
The connection makes one socket after another ready for a session, while others may cancel at any
moment. What each of them does to the canceller is cut into the steps that nothing can come between.
The canceller knows exactly the socket that is in use, and no socket gets ready once it has fired.
-/

namespace Debuggee

inductive Linkage.Stage (σ : Type) where
  | idle
  | prepared (socket : σ)
  | handshaking (socket : σ)
  /-- The handshake is over and no session will follow, because it failed or all is to stop. -/
  | closing (socket : σ) (failure : Option String)
  /-- The socket of a failed handshake is gone; whether it was cancelled is still to be looked at. -/
  | closed (socket : σ) (reason : String)
  | session (socket : σ)
  deriving DecidableEq, Repr

structure Linkage.Outcome (σ : Type) where
  socket : σ
  setUp : Except String Unit
  result : Except TransportError Unit
  deriving DecidableEq, Repr

inductive Linkage.Event (σ : Type) where
  | returned (outcome : Linkage.Outcome σ)
  | hungUp (socket : σ)
  deriving DecidableEq, Repr

structure Linkage (σ : Type) where
  canceller : Canceller σ := {}
  stage : Linkage.Stage σ := .idle
  events : List (Linkage.Event σ) := []
  deriving DecidableEq, Repr

namespace Canceller

variable {σ : Type}

/-- First a cancellation makes itself known, and then it stops the socket that it finds. -/
def announce (canceller : Canceller σ) : Canceller σ :=
  { canceller with cancelled := true }

def stop (canceller : Canceller σ) : Canceller σ :=
  { canceller with stopped := canceller.socket.toList ++ canceller.stopped }

theorem cancel_eq (canceller : Canceller σ) : canceller.cancel = canceller.announce.stop :=
  rfl

end Canceller

namespace Linkage

variable {σ : Type} {before after linkage : Linkage σ}

inductive Step (σ : Type) where
  | setUp (socket : σ) (outcome : Except String Unit)
  | register (handle : Except String Unit)
  | handshake (outcome : Except String Unit)
  | clear
  | look
  | hangUp
  | announce
  | stop

def returning (linkage : Linkage σ) (socket : σ) (setUp : Except String Unit)
    (result : Except TransportError Unit) : Linkage σ :=
  { linkage with events := linkage.events ++ [.returned ⟨socket, setUp, result⟩] }

/-- The connection keeps to its own order; a step of it out of turn changes nothing. -/
def step (linkage : Linkage σ) : Step σ → Linkage σ
  | .setUp socket outcome =>
    match linkage.stage with
    | .idle =>
      match outcome with
      | .ok _ => { linkage with stage := .prepared socket }
      | .error reason => linkage.returning socket (.error reason) (.error (.failed reason))
    | _ => linkage
  | .register handle =>
    match linkage.stage with
    | .prepared socket =>
      match linkage.canceller.register socket handle with
      | .ok canceller => { linkage with canceller := canceller, stage := .handshaking socket }
      | .error error => { linkage with stage := .idle }.returning socket (.ok ()) (.error error)
    | _ => linkage
  | .handshake outcome =>
    match linkage.stage with
    | .handshaking socket =>
      match outcome with
      | .ok _ =>
        if linkage.canceller.cancelled then { linkage with stage := .closing socket none }
        else { linkage with stage := .session socket }.returning socket (.ok ()) (.ok ())
      | .error reason => { linkage with stage := .closing socket (some reason) }
    | _ => linkage
  | .clear =>
    match linkage.stage with
    | .closing socket none =>
      { linkage with canceller := linkage.canceller.clear, stage := .idle }.returning socket (.ok ())
        (.error .cancelled)
    | .closing socket (some reason) =>
      { linkage with canceller := linkage.canceller.clear, stage := .closed socket reason }
    | _ => linkage
  | .look =>
    match linkage.stage with
    | .closed socket reason =>
      { linkage with stage := .idle }.returning socket (.ok ())
        (.error (if linkage.canceller.cancelled then .cancelled else .failed reason))
    | _ => linkage
  | .hangUp =>
    match linkage.stage with
    | .session socket =>
      { linkage with
        canceller := linkage.canceller.clear
        stage := .idle
        events := linkage.events ++ [.hungUp socket] }
    | _ => linkage
  | .announce => { linkage with canceller := linkage.canceller.announce }
  | .stop => { linkage with canceller := linkage.canceller.stop }

def runFrom (linkage : Linkage σ) (steps : List (Step σ)) : Linkage σ :=
  steps.foldl step linkage

def run (steps : List (Step σ)) : Linkage σ :=
  runFrom {} steps

theorem run_append (steps later : List (Step σ)) :
    run (steps ++ later) = (run steps).runFrom later :=
  List.foldl_append

theorem run_concat (steps : List (Step σ)) (last : Step σ) :
    run (steps ++ [last]) = (run steps).step last :=
  List.foldl_append

inductive Change (before : Linkage σ) : Step σ → Linkage σ → Prop where
  | passed {step : Step σ} : Change before step before
  | unprepared {socket : σ} {reason : String} (idle : before.stage = .idle) :
      Change before (.setUp socket (.error reason))
        (before.returning socket (.error reason) (.error (.failed reason)))
  | prepared {socket : σ} (idle : before.stage = .idle) :
      Change before (.setUp socket (.ok ())) { before with stage := .prepared socket }
  | unregistered {socket : σ} {handle : Except String Unit} {error : TransportError}
      (prepared : before.stage = .prepared socket)
      (cause : before.canceller.cancelled = true → error = .cancelled) :
      Change before (.register handle)
        ({ before with stage := .idle }.returning socket (.ok ()) (.error error))
  | registered {socket : σ} (prepared : before.stage = .prepared socket)
      (uncancelled : before.canceller.cancelled = false) :
      Change before (.register (.ok ()))
        { before with
          canceller := { before.canceller with socket := some socket }
          stage := .handshaking socket }
  | opened {socket : σ} (shaking : before.stage = .handshaking socket)
      (uncancelled : before.canceller.cancelled = false) :
      Change before (.handshake (.ok ()))
        ({ before with stage := .session socket }.returning socket (.ok ()) (.ok ()))
  | shaken {socket : σ} {outcome : Except String Unit} (failure : Option String)
      (shaking : before.stage = .handshaking socket) :
      Change before (.handshake outcome) { before with stage := .closing socket failure }
  | overtaken {socket : σ} (closing : before.stage = .closing socket none) :
      Change before .clear
        ({ before with canceller := before.canceller.clear, stage := .idle }.returning socket (.ok ())
          (.error .cancelled))
  | cleared {socket : σ} {reason : String} (closing : before.stage = .closing socket (some reason)) :
      Change before .clear
        { before with canceller := before.canceller.clear, stage := .closed socket reason }
  | failed {socket : σ} {reason : String} {error : TransportError}
      (closed : before.stage = .closed socket reason)
      (cause : before.canceller.cancelled = true → error = .cancelled) :
      Change before .look
        ({ before with stage := .idle }.returning socket (.ok ()) (.error error))
  | hungUp {socket : σ} (session : before.stage = .session socket) :
      Change before .hangUp
        { before with
          canceller := before.canceller.clear
          stage := .idle
          events := before.events ++ [.hungUp socket] }
  | announced : Change before .announce { before with canceller := before.canceller.announce }
  | stopped : Change before .stop { before with canceller := before.canceller.stop }

theorem change_step (linkage : Linkage σ) (step : Step σ) :
    Change linkage step (linkage.step step) := by
  -- Each step is one in turn in a single stage and changes nothing in any other.
  cases step with
  | setUp socket outcome =>
      cases stage : linkage.stage with
      | idle =>
          cases outcome with
          | ok _ =>
              simp only [Linkage.step, stage]
              exact .prepared stage
          | error reason =>
              simp only [Linkage.step, stage]
              exact .unprepared stage
      | _ =>
          simp only [Linkage.step, stage]
          exact .passed
  | register handle =>
      cases stage : linkage.stage with
      | prepared socket =>
          simp only [Linkage.step, stage, Canceller.register]
          by_cases told : linkage.canceller.cancelled = true
          · rw [if_pos told]
            exact .unregistered stage fun _ => rfl
          · rw [if_neg told]
            cases handle with
            | error reason => exact .unregistered stage fun cancelled => absurd cancelled told
            | ok _ => exact .registered stage (eq_false_of_ne_true told)
      | _ =>
          simp only [Linkage.step, stage]
          exact .passed
  | handshake outcome =>
      cases stage : linkage.stage with
      | handshaking socket =>
          simp only [Linkage.step, stage]
          cases outcome with
          | error reason => exact .shaken (some reason) stage
          | ok _ =>
              by_cases told : linkage.canceller.cancelled = true
              · simp only [if_pos told]
                exact .shaken none stage
              · simp only [if_neg told]
                exact .opened stage (eq_false_of_ne_true told)
      | _ =>
          simp only [Linkage.step, stage]
          exact .passed
  | clear =>
      cases stage : linkage.stage with
      | closing socket failure =>
          simp only [Linkage.step, stage]
          cases failure with
          | none => exact .overtaken stage
          | some reason => exact .cleared stage
      | _ =>
          simp only [Linkage.step, stage]
          exact .passed
  | look =>
      cases stage : linkage.stage with
      | closed socket reason =>
          simp only [Linkage.step, stage]
          exact .failed stage fun told => if_pos told
      | _ =>
          simp only [Linkage.step, stage]
          exact .passed
  | hangUp =>
      cases stage : linkage.stage with
      | session socket =>
          simp only [Linkage.step, stage]
          exact .hungUp stage
      | _ =>
          simp only [Linkage.step, stage]
          exact .passed
  | announce => exact .announced
  | stop => exact .stopped

theorem holds_runFrom {Holds : Linkage σ → Prop} (first : Holds linkage)
    (kept : ∀ {before step after}, Holds before → Change before step after → Holds after)
    (steps : List (Step σ)) : Holds (linkage.runFrom steps) := by
  induction steps using List.reverseRecOn with
  | nil => exact first
  | append_singleton steps last ih =>
      rw [runFrom, List.foldl_append]
      exact kept ih (change_step _ last)

/-! The canceller and the events agree with how far the connection has come. -/

def Stage.isHandshake : Stage σ → Bool
  | .handshaking _ => true
  | .closing _ _ => true
  | _ => false

def Stage.registered? : Stage σ → Option σ
  | .handshaking socket => some socket
  | .closing socket _ => some socket
  | .session socket => some socket
  | _ => none

def Stage.served? : Stage σ → Option σ
  | .session socket => some socket
  | _ => none

def Event.served? : Event σ → Option σ
  | .returned ⟨socket, _, .ok _⟩ => some socket
  | _ => none

/-- The socket that got ready last, unless its session is over or another was tried since. -/
def served? (events : List (Event σ)) : Option σ :=
  events.getLast?.bind Event.served?

@[simp] theorem served?_concat (events : List (Event σ)) (event : Event σ) :
    served? (events ++ [event]) = event.served? := by
  simp [served?]

structure Agrees (linkage : Linkage σ) : Prop where
  socket : linkage.canceller.socket = linkage.stage.registered?
  served : served? linkage.events = linkage.stage.served?

theorem Change.agrees {step : Step σ} (change : Change before step after)
    (agrees : before.Agrees) : after.Agrees := by
  obtain ⟨socket, served⟩ := agrees
  cases change with
  | passed => exact ⟨socket, served⟩
  | unprepared idle =>
      rw [idle] at socket
      exact ⟨by rw [returning, idle, socket], by simp [returning, idle, Event.served?, Stage.served?]⟩
  | prepared idle =>
      rw [idle] at socket served
      exact ⟨socket, served⟩
  | unregistered prepared =>
      rw [prepared] at socket
      exact ⟨socket, by simp [returning, Event.served?, Stage.served?]⟩
  | registered prepared =>
      rw [prepared] at served
      exact ⟨rfl, served⟩
  | opened shaking =>
      rw [shaking] at socket
      exact ⟨socket, by simp [returning, Event.served?, Stage.served?]⟩
  | shaken failure shaking =>
      rw [shaking] at socket served
      exact ⟨socket, served⟩
  | overtaken closing => exact ⟨rfl, by simp [returning, Event.served?, Stage.served?]⟩
  | cleared closing =>
      rw [closing] at served
      exact ⟨rfl, served⟩
  | failed closed =>
      rw [closed] at socket
      exact ⟨socket, by simp [returning, Event.served?, Stage.served?]⟩
  | hungUp session => exact ⟨rfl, by simp [Event.served?, Stage.served?]⟩
  | announced => exact ⟨socket, served⟩
  | stopped => exact ⟨socket, served⟩

theorem agrees_run (steps : List (Step σ)) : (run steps).Agrees :=
  holds_runFrom ⟨rfl, rfl⟩ (fun agrees change => change.agrees agrees) steps

/-! What comes after a cancellation has made itself known. -/

/-- Sockets do not get ready any more; only where the set-up failed is that the reason. -/
def Outcome.IsRefused (outcome : Outcome σ) : Prop :=
  outcome.result = .error .cancelled ∨
    ∃ reason, outcome.setUp = .error reason ∧ outcome.result = .error (.failed reason)

structure Winds (before after : Linkage σ) : Prop where
  cancelled : after.canceller.cancelled = true
  socket : ∀ socket, after.canceller.socket = some socket → before.canceller.socket = some socket
  stopped : ∀ socket ∈ before.canceller.stopped, socket ∈ after.canceller.stopped
  events : ∃ events, after.events = before.events ++ events ∧
    ∀ outcome, .returned outcome ∈ events → outcome.IsRefused

theorem Winds.moved (told : linkage.canceller.cancelled = true) (stage : Stage σ) :
    linkage.Winds { linkage with stage := stage } :=
  ⟨told, fun _ => id, fun _ => id, [], by simp, by simp⟩

theorem Winds.cleared (told : linkage.canceller.cancelled = true) (stage : Stage σ) :
    linkage.Winds { linkage with canceller := linkage.canceller.clear, stage := stage } := by
  refine ⟨told, ?_, fun _ => id, [], by simp, by simp⟩
  intro socket known
  contradiction

theorem Winds.trans {between : Linkage σ} (first : before.Winds between)
    (second : between.Winds after) : before.Winds after := by
  obtain ⟨events, earlier, refused⟩ := first.events
  obtain ⟨more, later, alsoRefused⟩ := second.events
  refine ⟨second.cancelled, fun socket known => first.socket socket (second.socket socket known),
    fun socket known => second.stopped socket (first.stopped socket known), events ++ more, ?_, ?_⟩
  · rw [later, earlier, List.append_assoc]
  · intro outcome belongs
    exact (List.mem_append.mp belongs).elim (refused outcome) (alsoRefused outcome)

theorem Winds.returning {socket : σ} {setUp : Except String Unit}
    {result : Except TransportError Unit} (winds : before.Winds after)
    (same : after.events = before.events)
    (refused : Outcome.IsRefused ⟨socket, setUp, result⟩) :
    before.Winds (after.returning socket setUp result) := by
  refine ⟨winds.cancelled, winds.socket, winds.stopped, [.returned ⟨socket, setUp, result⟩], ?_, ?_⟩
  · rw [Linkage.returning, same]
  · rintro outcome belongs
    simp only [List.mem_singleton, Event.returned.injEq] at belongs
    exact belongs ▸ refused

theorem Change.winds {step : Step σ} (change : Change before step after)
    (told : before.canceller.cancelled = true) : before.Winds after := by
  cases change with
  | passed => exact .moved told before.stage
  | unprepared idle =>
      exact (Winds.moved told before.stage).returning rfl (Or.inr ⟨_, rfl, rfl⟩)
  | prepared idle => exact .moved told _
  | unregistered prepared cause =>
      exact (Winds.moved told .idle).returning rfl (Or.inl (congrArg _ (cause told)))
  | registered prepared uncancelled => simp [told] at uncancelled
  | opened shaking uncancelled => simp [told] at uncancelled
  | shaken failure shaking => exact .moved told _
  | overtaken closing => exact (Winds.cleared told .idle).returning rfl (Or.inl rfl)
  | cleared closing => exact .cleared told _
  | failed closed cause =>
      exact (Winds.moved told .idle).returning rfl (Or.inl (congrArg _ (cause told)))
  | @hungUp socket session =>
      refine ⟨told, ?_, fun _ => id, [.hungUp socket], rfl, by simp⟩
      intro socket known
      contradiction
  | announced => exact ⟨rfl, fun _ => id, fun _ => id, [], by simp, by simp⟩
  | stopped =>
      exact ⟨told, fun _ => id, fun _ => List.mem_append_right _, [], by simp, by simp⟩

theorem winds_runFrom (told : linkage.canceller.cancelled = true) (steps : List (Step σ)) :
    linkage.Winds (linkage.runFrom steps) :=
  holds_runFrom (.moved told linkage.stage)
    (fun winds change => winds.trans (change.winds winds.cancelled)) steps

theorem winds_run (earlier later : List (Step σ)) :
    (run earlier).Winds (run (earlier ++ .announce :: later)) := by
  have announced : (run earlier).Winds ((run earlier).step .announce) :=
    ⟨rfl, fun _ => id, fun _ => id, [], (List.append_nil _).symm, by simp⟩
  rw [run_append, runFrom, List.foldl_cons]
  exact announced.trans (winds_runFrom rfl later)

/-- The socket that is in use when a cancellation has been carried out has been stopped. -/
theorem stopped_of_cancelled (earlier between later : List (Step σ)) {socket : σ}
    (known : (run (earlier ++ .announce :: between ++ .stop :: later)).canceller.socket = some socket) :
    socket ∈ (run (earlier ++ .announce :: between ++ .stop :: later)).canceller.stopped := by
  have told := (winds_run earlier between).cancelled
  have stopped := (change_step (run (earlier ++ .announce :: between)) .stop).winds told
  have winds := winds_runFrom stopped.cancelled later
  have split : run (earlier ++ .announce :: between ++ .stop :: later) =
      ((run (earlier ++ .announce :: between)).step .stop).runFrom later := by
    rw [run_append]
    rfl
  rw [split] at known ⊢
  apply winds.stopped
  have found : (run (earlier ++ .announce :: between)).canceller.socket = some socket :=
    winds.socket socket known
  exact List.mem_append_left _ (Option.mem_toList.mpr found)

/-! An attempt in one go, as the debugger makes it, is a run of these steps. -/

def interruption (attempt : Attempt σ) : List (Step σ) :=
  match attempt.setUp, attempt.handle with
  | .ok _, .ok _ => if attempt.cancelledMeanwhile then [.announce, .stop] else []
  | _, _ => []

def stepsOf (attempt : Attempt σ) : List (Step σ) :=
  [.setUp attempt.socket attempt.setUp, .register attempt.handle] ++ interruption attempt ++
    [.handshake attempt.handshake, .clear, .look]

def established (linkage : Linkage σ) (attempt : Attempt σ) : Linkage σ :=
  let outcome := linkage.canceller.establish attempt
  { canceller := outcome.2
    stage :=
      match outcome.1 with
      | .ok _ => .session attempt.socket
      | .error _ => .idle
    events := linkage.events ++ [.returned ⟨attempt.socket, attempt.setUp, outcome.1⟩] }

theorem runFrom_stepsOf (idle : linkage.stage = .idle) (empty : linkage.canceller.socket = none)
    (attempt : Attempt σ) : linkage.runFrom (stepsOf attempt) = linkage.established attempt := by
  obtain ⟨⟨cancelled, known, stopped⟩, stage, events⟩ := linkage
  obtain ⟨socket, setUp, handle, meanwhile, handshake⟩ := attempt
  subst idle empty
  cases setUp with
  | error reason => rfl
  | ok _ =>
      cases cancelled with
      | true =>
          cases handle <;> cases meanwhile <;> rfl
      | false =>
          cases handle with
          | error reason => rfl
          | ok _ =>
              cases meanwhile <;> cases handshake <;> rfl

theorem Change.idle_of_refused {step : Step σ} {outcome : Outcome σ} {error : TransportError}
    (change : Change before step after)
    (returned : after.events = before.events ++ [.returned outcome])
    (refused : outcome.result = .error error) : after.stage = .idle := by
  cases change with
  | unprepared idle => exact idle
  | unregistered | overtaken | failed => rfl
  | opened =>
      have same := List.append_cancel_left returned
      simp only [List.cons.injEq, Event.returned.injEq, and_true] at same
      rw [← same] at refused
      contradiction
  | _ => simp at returned

theorem runFrom_cancel (told : linkage.canceller.cancelled = true) :
    linkage.runFrom [.announce, .stop] =
      { linkage with canceller := { linkage.canceller with
        stopped := linkage.canceller.socket.toList ++ linkage.canceller.stopped } } := by
  obtain ⟨⟨cancelled, socket, stopped⟩, stage, events⟩ := linkage
  subst told
  rfl

structure Tracks (steps : List (Step σ)) : Prop where
  served : (run steps).stage.isHandshake = false →
    (run steps).canceller.socket = served? (run steps).events
  handshake : ∀ socket, (run steps).stage = .handshaking socket →
    (run steps).canceller.socket = some socket
  emptied : ∀ step outcome error,
    (run (steps ++ [step])).events = (run steps).events ++ [.returned outcome] →
    outcome.result = .error error → (run (steps ++ [step])).canceller.socket = none
  stops : ∀ socket, (run steps).canceller.socket = some socket →
    socket ∈ (run (steps ++ [.stop])).canceller.stopped
  refuses : ∀ earlier later, steps = earlier ++ .announce :: later →
    ∃ events, (run steps).events = (run earlier).events ++ events ∧
      ∀ outcome, .returned outcome ∈ events → outcome.IsRefused
  -- A second cancellation finds nothing to do, whatever has been going on since the first.
  repeats : ∀ earlier between later, steps = earlier ++ .announce :: between ++ .stop :: later →
    ∃ stopped, run (steps ++ [.announce, .stop]) =
        { run steps with canceller := { (run steps).canceller with stopped := stopped } } ∧
      ∀ socket, socket ∈ stopped ↔ socket ∈ (run steps).canceller.stopped
  establishes : ∀ attempt, (run steps).stage = .idle →
    run (steps ++ stepsOf attempt) = (run steps).established attempt
  cancels : run (steps ++ [.announce, .stop]) =
    { run steps with canceller := (run steps).canceller.cancel }

/-- The canceller tracks the socket in use, whatever is tried and whenever a cancellation comes. -/
theorem tracks (steps : List (Step σ)) : Tracks steps := by
  have agrees := agrees_run steps
  constructor
  case served =>
    intro outside
    rw [agrees.socket, agrees.served]
    cases stage : (run steps).stage <;> simp_all [Stage.isHandshake, Stage.registered?, Stage.served?]
  case handshake =>
    intro socket handshaking
    rw [agrees.socket, handshaking]
    rfl
  case emptied =>
    intro step outcome error returned refused
    rw [run_concat] at returned ⊢
    have idle := (change_step _ step).idle_of_refused returned refused
    rw [((change_step _ step).agrees agrees).socket, idle]
    rfl
  case stops =>
    intro socket known
    rw [run_concat]
    exact List.mem_append_left _ (Option.mem_toList.mpr known)
  case refuses =>
    rintro earlier later rfl
    exact (winds_run earlier later).events
  case repeats =>
    rintro earlier between later rfl
    have told := (winds_run earlier (between ++ .stop :: later)).cancelled
    rw [← List.cons_append, ← List.append_assoc] at told
    refine ⟨_, by rw [run_append, runFrom_cancel told], ?_⟩
    intro socket
    rw [List.mem_append, Option.mem_toList, or_iff_right_of_imp]
    exact fun known => stopped_of_cancelled earlier between later known
  case establishes =>
    intro attempt idle
    have empty : (run steps).canceller.socket = none := by
      rw [agrees.socket, idle]
      rfl
    rw [run_append]
    exact runFrom_stepsOf idle empty attempt
  case cancels =>
    rw [run_append, Canceller.cancel_eq]
    rfl

theorem tracks_of_overtaken_handshake :
    let begun : List (Step Nat) := [.setUp 1 (.ok ()), .register (.ok ()), .announce]
    let steps := begun ++ [.stop, .handshake (.ok ()), .clear]
    1 ∈ (run (begun ++ [.stop])).canceller.stopped ∧
      (run steps).canceller.socket = served? (run steps).events ∧
      ∃ events, (run steps).events = [] ++ events ∧
        ∀ outcome, .returned outcome ∈ events → outcome.IsRefused := by
  intro begun steps
  exact ⟨(tracks begun).stops 1 (by decide), (tracks steps).served (by decide),
    (tracks steps).refuses [.setUp 1 (.ok ()), .register (.ok ())]
      [.stop, .handshake (.ok ()), .clear] rfl⟩

end Linkage

end Debuggee
