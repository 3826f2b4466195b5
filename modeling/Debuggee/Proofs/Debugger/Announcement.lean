import Debuggee.Debugger.Dispatch
import Debuggee.Proofs.Layout.Written
import Debuggee.Proofs.Registry.Follow

/-!
Breakpoints change in one step and are announced in later ones. Each caller queues what it has to
tell before it changes anything again, and others may come in between. The client learns the state
of every breakpoint, and it learns it last unless a report is overtaken by a later one.
-/

namespace Debuggee

namespace Replica

theorem store_append (held : Int64 → Option Breakpoint) (reports later : List Breakpoint) :
    store held (reports ++ later) = store (store held reports) later :=
  List.foldl_append

theorem store_congr {held other : Int64 → Option Breakpoint} {id : Int64}
    (same : held id = other id) (reports : List Breakpoint) :
    store held reports id = store other reports id := by
  induction reports generalizing held other with
  | nil => exact same
  | cons report reports ih =>
      apply ih
      dsimp only
      rw [same]

end Replica

namespace ServerMessage

def listed (body : Json) : List Breakpoint :=
  match (fromJson body : Except LayoutError SetBreakpointsAnswer) with
  | .ok answer => answer.breakpoints
  | .error _ => []

def changed (body : Json) : List Breakpoint :=
  match (fromJson body : Except LayoutError BreakpointEvent) with
  | .ok notice => [notice.breakpoint]
  | .error _ => []

def told : ServerMessage → List Breakpoint
  | .response answer =>
    if answer.success ∧ answer.command = "setBreakpoints" then answer.body.toList.flatMap listed
    else []
  | .event notice =>
    if notice.event = "breakpoint" then notice.body.toList.flatMap changed else []

def IsAbout (message : ServerMessage) (id : Int64) : Prop :=
  id ∈ message.told.filterMap (·.id)

theorem told_withBody (seq : Int64) (reports : List Breakpoint) :
    told (.response (.withBody seq "setBreakpoints" (⟨reports⟩ : SetBreakpointsAnswer))) =
      reports := by
  have read : listed (Debuggee.toJson (⟨reports⟩ : SetBreakpointsAnswer)).sorted = reports := by
    rw [listed, fromJson_sorted_toJson (by decide) (by decide)]
  simp [told, Response.withBody, Response.succeed, read]

theorem told_breakpointChanged (breakpoint : Breakpoint) :
    told (.event (.breakpointChanged breakpoint)) = [breakpoint] := by
  have read : changed (Debuggee.toJson (⟨"changed", breakpoint⟩ : BreakpointEvent)).sorted =
      [breakpoint] := by
    rw [changed, fromJson_sorted_toJson (by decide) (by decide)]
  simp [told, Event.breakpointChanged, Event.withBody, read]

end ServerMessage

namespace Registry

theorem Coherent.told_perform {calls : List Call} {registry : Registry}
    (coherent : Coherent calls registry) {call : Call}
    (few : (registry.perform call).1.nextId ≤ 2 ^ 63) {key : Nat} {breakpoint : LineBreakpoint}
    (found : (registry.perform call).1.breakpoints.get? key = some breakpoint) :
    (Int64.ofNat breakpoint.id ∈ (registry.perform call).2.filterMap (·.id) ∧
      ∀ held, Replica.store held (registry.perform call).2 (Int64.ofNat breakpoint.id) =
        some breakpoint.report) ∨
    (Int64.ofNat breakpoint.id ∉ (registry.perform call).2.filterMap (·.id) ∧
      ∃ before, registry.breakpoints.get? key = some before ∧ before.id = breakpoint.id ∧
        before.report = breakpoint.report) := by
  cases call with
  | lookup path line => exact Or.inr ⟨List.not_mem_nil, breakpoint, found, rfl, rfl⟩
  | register path line kind =>
      obtain ⟨before, stored, same⟩ := Replica.stored_register_iff.mp found
      have bound : registry.nextId ≤ 2 ^ 63 := few
      have said := coherent.id_mem_reports_iff bound stored path line kind
      rw [← same, LineBreakpoint.refresh_id]
      by_cases told : Int64.ofNat before.id ∈ (registry.register path line kind).2.filterMap (·.id)
      · refine Or.inl ⟨told, ?_⟩
        intro held
        exact Replica.store_register held coherent bound stored told
      · refine Or.inr ⟨told, before, stored, rfl, ?_⟩
        rw [said, not_not] at told
        exact told.symm
  | replace clientPath runtimePath source asked modified =>
      have bound : registry.nextId + asked.length ≤ 2 ^ 63 := by
        rw [← registry.nextId_replace clientPath runtimePath source asked modified]
        exact few
      rcases (registry.get?_replace clientPath runtimePath source asked modified
        coherent.key_below key breakpoint).mp found with ⟨unmodified, _, member⟩ | ⟨old, _⟩
      · refine Or.inl ⟨Replica.mem_reported_ids_iff_created.mpr ⟨breakpoint, member, rfl⟩, ?_⟩
        intro held
        refine (Replica.store_replace held bound member).trans ?_
        rw [unmodified]
        rfl
      · refine Or.inr ⟨?_, breakpoint, old, rfl, rfl⟩
        intro member
        obtain ⟨number, least, below, same⟩ := Replica.mem_reported_ids_iff.mp member
        have known := (coherent.kept key breakpoint old).below
        have equal := ofNat_injective (by omega) (by omega) same
        omega

theorem nextId_perform (registry : Registry) (call : Call) :
    registry.nextId ≤ (registry.perform call).1.nextId := by
  cases call with
  | replace clientPath runtimePath source asked modified =>
      rw [perform, nextId_replace]
      omega
  | _ => exact Nat.le_refl _

end Registry

namespace Debugger

inductive Task where
  | request (seq : Int64) (arguments : SetBreakpointsArguments)
  | register (path : String) (line : Int64) (kind : LineKind)

/-- The first step of a task, and the messages that it has to queue after it. -/
def Task.change (debugger : Debugger) : Task → Debugger × List ServerMessage
  | .request seq arguments =>
    let (reports, debugger) := debugger.setBreakpoints arguments
    (debugger, [.response (.withBody seq "setBreakpoints" (⟨reports⟩ : SetBreakpointsAnswer))])
  | .register path line kind =>
    let (registry, changed) := debugger.registry.register path line kind
    ({ debugger with registry := registry },
      changed.map fun breakpoint => .event (Event.breakpointChanged breakpoint))

/-- What a debugger does in one go is its task, done without a pause. -/
theorem serve_setBreakpoints (debugger : Debugger) (seq : Int64)
    (arguments : SetBreakpointsArguments) :
    debugger.serve ⟨seq, .setBreakpoints arguments⟩ =
      some (((Task.request seq arguments).change debugger).1.sendAll
        ((Task.request seq arguments).change debugger).2, []) := rfl

theorem registerLine_eq_change (debugger : Debugger) (path : String) (line : Int64)
    (kind : LineKind) :
    debugger.registerLine path line kind =
      ((Task.register path line kind).change debugger).1.sendAll
        ((Task.register path line kind).change debugger).2 := rfl

def Task.call (debugger : Debugger) : Task → Registry.Call
  | .request _ arguments =>
    .replace arguments.clientPath (debugger.configuration.toRuntimePath arguments.clientPath)
      arguments.source arguments.requested arguments.sourceModified
  | .register path line kind => .register path line kind

theorem Task.change_eq (debugger : Debugger) (task : Task) :
    (task.change debugger).1 =
      { debugger with registry := (debugger.registry.perform (task.call debugger)).1 } := by
  cases task <;> rfl

theorem Task.told_change (debugger : Debugger) (task : Task) :
    (task.change debugger).2.flatMap ServerMessage.told =
      (debugger.registry.perform (task.call debugger)).2 := by
  cases task with
  | request seq arguments =>
      simp only [Task.change, List.flatMap_singleton, ServerMessage.told_withBody]
      rfl
  | register path line kind =>
      simp only [Task.change, List.flatMap_map, ServerMessage.told_breakpointChanged]
      exact List.flatMap_singleton' _

end Debugger

structure Announcers where
  debugger : Debugger
  owed : Nat → List ServerMessage := fun _ => []

namespace Announcers

open Debugger (Task)

inductive Step where
  | change (caller : Nat) (task : Task)
  | queue (caller : Nat)

/-- A caller changes nothing before it has queued what it has to tell of the last change. -/
def step (announcers : Announcers) : Step → Announcers
  | .change caller task =>
    match announcers.owed caller with
    | [] =>
      { debugger := (task.change announcers.debugger).1
        owed := Function.update announcers.owed caller (task.change announcers.debugger).2 }
    | _ :: _ => announcers
  | .queue caller =>
    match announcers.owed caller with
    | [] => announcers
    | message :: later =>
      { debugger := (announcers.debugger.send message).2
        owed := Function.update announcers.owed caller later }

def run (announcers : Announcers) (steps : List Step) : Announcers :=
  steps.foldl step announcers

def opened (configuration : DebugConfiguration) : Announcers where
  debugger := { configuration := configuration, queue := SendQueue.activate {} }

def registry (announcers : Announcers) : Registry :=
  announcers.debugger.registry

def queued (announcers : Announcers) : List ServerMessage :=
  announcers.debugger.queue.pending

def held (announcers : Announcers) : Int64 → Option Breakpoint :=
  Replica.store (fun _ => none) (announcers.queued.flatMap ServerMessage.told)

def Done (announcers : Announcers) : Prop :=
  ∀ caller, announcers.owed caller = []

/-- A breakpoint is changed only once all that was said about it before is queued. -/
def Patient (announcers : Announcers) (id : Int64) : List Step → Prop
  | [] => True
  | .queue caller :: steps => Patient (announcers.step (.queue caller)) id steps
  | .change caller task :: steps =>
    (announcers.owed caller = [] →
      (∃ message ∈ (task.change announcers.debugger).2, message.IsAbout id) →
      ∀ other, ∀ message ∈ announcers.owed other, ¬message.IsAbout id) ∧
    Patient (announcers.step (.change caller task)) id steps

/-- Breakpoints are changed only while nobody has anything to queue. -/
def Serial (announcers : Announcers) : List Step → Prop
  | [] => True
  | .queue caller :: steps => Serial (announcers.step (.queue caller)) steps
  | .change caller task :: steps =>
    announcers.Done ∧ Serial (announcers.step (.change caller task)) steps

variable {announcers : Announcers} {id : Int64}

theorem Serial.patient {steps : List Step} (serial : announcers.Serial steps) :
    announcers.Patient id steps := by
  induction steps generalizing announcers with
  | nil => trivial
  | cons step steps ih =>
      cases step with
      | queue caller => exact ih serial
      | change caller task =>
          refine ⟨?_, ih serial.2⟩
          intro _ _ other message member
          rw [serial.1 other] at member
          contradiction

structure Sound (announcers : Announcers) : Prop where
  active : announcers.debugger.queue.active = true
  coherent : ∃ calls, Registry.Coherent calls announcers.registry

theorem sound_opened (configuration : DebugConfiguration) : (opened configuration).Sound :=
  ⟨rfl, [], Registry.coherent_fresh⟩

inductive Progress (before : Announcers) : Step → Announcers → Prop where
  | passed {step : Step} : Progress before step before
  | changed {caller : Nat} {task : Task} {after : Announcers} (idle : before.owed caller = [])
      (registry : after.registry = (before.registry.perform (task.call before.debugger)).1)
      (active : after.debugger.queue.active = true) (same : after.queued = before.queued)
      (own : after.owed caller = (task.change before.debugger).2)
      (others : ∀ other, other ≠ caller → after.owed other = before.owed other) :
      Progress before (.change caller task) after
  | queued {caller : Nat} {message : ServerMessage} {after : Announcers}
      (owes : before.owed caller = message :: after.owed caller)
      (registry : after.registry = before.registry) (active : after.debugger.queue.active = true)
      (more : after.queued = before.queued ++ [message])
      (others : ∀ other, other ≠ caller → after.owed other = before.owed other) :
      Progress before (.queue caller) after

theorem Sound.progress (sound : announcers.Sound) (step : Step) :
    Progress announcers step (announcers.step step) := by
  have active := sound.active
  cases step with
  | change caller task =>
      rw [Announcers.step]
      split
      · rename_i idle
        have changed := task.change_eq announcers.debugger
        refine .changed idle ?_ ?_ ?_ (Function.update_self ..) ?_
        · rw [registry, changed]
          rfl
        · rw [changed]
          exact active
        · rw [queued, changed]
          rfl
        · intro other different
          exact Function.update_of_ne different ..
      · exact .passed
  | queue caller =>
      rw [Announcers.step]
      split
      · exact .passed
      · rename_i message later owes
        have pushed : (announcers.debugger.send message).2.queue =
            { announcers.debugger.queue with
              pending := announcers.debugger.queue.pending ++ [message] } := by
          rw [Debugger.send, SendQueue.push, if_pos active]
        have owing : announcers.owed caller =
            message :: Function.update announcers.owed caller later caller := by
          rw [owes, Function.update_self]
        refine .queued owing rfl ?_ ?_ ?_
        · rw [pushed]
          exact active
        · rw [queued, pushed]
          rfl
        · intro other different
          exact Function.update_of_ne different ..

theorem Sound.step (sound : announcers.Sound) (step : Step) : (announcers.step step).Sound := by
  obtain ⟨calls, coherent⟩ := sound.coherent
  have progress := sound.progress step
  generalize announcers.step step = after at progress
  cases progress with
  | passed => exact sound
  | @changed _ task _ _ registry active _ _ _ =>
      refine ⟨active, calls ++ [task.call announcers.debugger], ?_⟩
      rw [registry]
      exact coherent.perform (task.call announcers.debugger)
  | queued _ registry active _ _ =>
      refine ⟨active, calls, ?_⟩
      rw [registry]
      exact coherent

theorem Sound.nextId_step (sound : announcers.Sound) (step : Step) :
    announcers.registry.nextId ≤ (announcers.step step).registry.nextId := by
  have progress := sound.progress step
  generalize announcers.step step = after at progress
  cases progress with
  | passed => exact Nat.le_refl _
  | changed _ registry _ _ _ _ =>
      rw [registry]
      exact Registry.nextId_perform announcers.registry _
  | queued _ registry _ _ _ => rw [registry]

theorem Sound.nextId_run (sound : announcers.Sound) (steps : List Step) :
    announcers.registry.nextId ≤ (announcers.run steps).registry.nextId := by
  induction steps generalizing announcers with
  | nil => exact Nat.le_refl _
  | cons step steps ih => exact (sound.nextId_step step).trans (ih (sound.step step))

theorem exists_about_iff {messages : List ServerMessage} :
    (∃ message ∈ messages, message.IsAbout id) ↔
      id ∈ (messages.flatMap ServerMessage.told).filterMap (·.id) := by
  rw [List.filterMap_flatMap, List.mem_flatMap]
  rfl

def Says (announcers : Announcers) (report : Breakpoint) : Prop :=
  report ∈ announcers.queued.flatMap ServerMessage.told ∨
    ∃ caller, report ∈ (announcers.owed caller).flatMap ServerMessage.told

theorem Sound.says (sound : announcers.Sound) {step : Step}
    (few : (announcers.step step).registry.nextId ≤ 2 ^ 63)
    (said : ∀ key breakpoint, announcers.registry.breakpoints.get? key = some breakpoint →
      announcers.Says breakpoint.report) {key : Nat} {breakpoint : LineBreakpoint}
    (found : (announcers.step step).registry.breakpoints.get? key = some breakpoint) :
    (announcers.step step).Says breakpoint.report := by
  obtain ⟨calls, coherent⟩ := sound.coherent
  have progress := sound.progress step
  generalize announcers.step step = after at progress few found ⊢
  cases progress with
  | passed => exact said key breakpoint found
  | @changed caller task _ idle registry _ same own others =>
      rw [registry] at few found
      rcases coherent.told_perform few found with ⟨told, stored⟩ | ⟨_, before, old, _, unchanged⟩
      · obtain ⟨report, member, _, last⟩ := Replica.store_of_mem (fun _ => none) told
        have reported : report = breakpoint.report := Option.some.inj (last.symm.trans (stored _))
        refine Or.inr ⟨caller, ?_⟩
        rw [own, task.told_change, ← reported]
        exact member
      · rw [← unchanged, Says, same]
        refine (said key before old).imp_right ?_
        rintro ⟨other, owes⟩
        refine ⟨other, ?_⟩
        rw [others]
        · exact owes
        · rintro rfl
          rw [idle] at owes
          contradiction
  | @queued caller message _ owes registry _ more others =>
      rw [registry] at found
      rw [Says, more, List.flatMap_append, List.flatMap_singleton, List.mem_append]
      rcases said key breakpoint found with queued | ⟨other, member⟩
      · exact Or.inl (Or.inl queued)
      · by_cases self : other = caller
        · rw [self, owes, List.flatMap_cons, List.mem_append] at member
          rcases member with now | afterwards
          · exact Or.inl (Or.inr now)
          · exact Or.inr ⟨caller, afterwards⟩
        · exact Or.inr ⟨other, by rwa [others other self]⟩

/-- One caller alone still speaks of a breakpoint, and its last word is the report. -/
def LeavesTo (announcers : Announcers) (id : Int64) (report : Breakpoint) : Prop :=
  ∃ caller, (∀ other, other ≠ caller → ∀ message ∈ announcers.owed other, ¬message.IsAbout id) ∧
    Replica.store announcers.held ((announcers.owed caller).flatMap ServerMessage.told) id =
      some report

theorem LeavesTo.change {report : Breakpoint} (left : announcers.LeavesTo id report)
    {after : Announcers} {caller : Nat} (idle : announcers.owed caller = [])
    (same : after.queued = announcers.queued)
    (untold : id ∉ ((after.owed caller).flatMap ServerMessage.told).filterMap (·.id))
    (others : ∀ other, other ≠ caller → after.owed other = announcers.owed other) :
    after.LeavesTo id report := by
  obtain ⟨speaker, silent, last⟩ := left
  have unheld : after.held = announcers.held := by
    rw [held, same, held]
  refine ⟨speaker, ?_, ?_⟩
  · intro other different message member about
    by_cases self : other = caller
    · rw [self] at member
      exact untold (exists_about_iff.mp ⟨message, member, about⟩)
    · rw [others other self] at member
      exact silent other different message member about
  · by_cases self : speaker = caller
    · rw [self, idle] at last
      rw [self, unheld]
      exact (Replica.store_of_absent _ untold).trans last
    · rw [others speaker self, unheld]
      exact last

theorem LeavesTo.queue {report : Breakpoint} (left : announcers.LeavesTo id report)
    {after : Announcers} {caller : Nat} {message : ServerMessage}
    (owes : announcers.owed caller = message :: after.owed caller)
    (more : after.queued = announcers.queued ++ [message])
    (others : ∀ other, other ≠ caller → after.owed other = announcers.owed other) :
    after.LeavesTo id report := by
  obtain ⟨speaker, silent, last⟩ := left
  have taken : after.held = Replica.store announcers.held message.told := by
    rw [held, more, List.flatMap_append, List.flatMap_singleton, Replica.store_append, held]
  refine ⟨speaker, ?_, ?_⟩
  · intro other different later member
    by_cases self : other = caller
    · rw [self] at different member
      exact silent caller different later (by rw [owes]; exact List.mem_cons_of_mem _ member)
    · rw [others other self] at member
      exact silent other different later member
  · rw [taken]
    by_cases self : speaker = caller
    · rw [self, owes, List.flatMap_cons, Replica.store_append] at last
      rw [self]
      exact last
    · have unheard : ¬message.IsAbout id :=
        silent caller (Ne.symm self) message (by rw [owes]; exact List.mem_cons_self)
      rw [others speaker self, ← last]
      exact Replica.store_congr (Replica.store_of_absent _ unheard) _

theorem Sound.leavesTo (sound : announcers.Sound) {step : Step} {steps : List Step}
    (few : (announcers.step step).registry.nextId ≤ 2 ^ 63)
    (patient : announcers.Patient id (step :: steps))
    (left : ∀ key breakpoint, announcers.registry.breakpoints.get? key = some breakpoint →
      Int64.ofNat breakpoint.id = id → announcers.LeavesTo id breakpoint.report) {key : Nat}
    {breakpoint : LineBreakpoint}
    (found : (announcers.step step).registry.breakpoints.get? key = some breakpoint)
    (named : Int64.ofNat breakpoint.id = id) :
    (announcers.step step).LeavesTo id breakpoint.report := by
  obtain ⟨calls, coherent⟩ := sound.coherent
  have progress := sound.progress step
  generalize announcers.step step = after at progress few found ⊢
  cases progress with
  | passed => exact left key breakpoint found named
  | @changed caller task _ idle registry _ same own others =>
      rw [registry] at few found
      rcases coherent.told_perform few found with
        ⟨told, stored⟩ | ⟨untold, before, old, sameId, unchanged⟩
      · -- Nobody else speaks of it any more, so the caller of this change has the last word.
        rw [named] at told stored
        have silent := patient.1 idle
          (exists_about_iff.mpr (by rw [task.told_change]; exact told))
        refine ⟨caller, ?_, ?_⟩
        · intro other different
          rw [others other different]
          exact silent other
        · rw [own, task.told_change]
          exact stored after.held
      · have still := left key before old (by rw [sameId, named])
        rw [unchanged] at still
        refine still.change idle same ?_ others
        rw [own, task.told_change, ← named]
        exact untold
  | queued owes registry _ more others =>
      rw [registry] at found
      exact (left key breakpoint found named).queue owes more others

theorem Sound.says_run (sound : announcers.Sound) {steps : List Step}
    (few : (announcers.run steps).registry.nextId ≤ 2 ^ 63)
    (said : ∀ key breakpoint, announcers.registry.breakpoints.get? key = some breakpoint →
      announcers.Says breakpoint.report) :
    ∀ key breakpoint, (announcers.run steps).registry.breakpoints.get? key = some breakpoint →
      (announcers.run steps).Says breakpoint.report := by
  induction steps generalizing announcers with
  | nil => exact said
  | cons step steps ih =>
      have later := sound.step step
      have bound := (later.nextId_run steps).trans few
      exact ih later few fun key breakpoint found => sound.says bound said found

theorem Sound.leavesTo_run (sound : announcers.Sound) {steps : List Step}
    (few : (announcers.run steps).registry.nextId ≤ 2 ^ 63)
    (patient : announcers.Patient id steps)
    (left : ∀ key breakpoint, announcers.registry.breakpoints.get? key = some breakpoint →
      Int64.ofNat breakpoint.id = id → announcers.LeavesTo id breakpoint.report) :
    ∀ key breakpoint, (announcers.run steps).registry.breakpoints.get? key = some breakpoint →
      Int64.ofNat breakpoint.id = id → (announcers.run steps).LeavesTo id breakpoint.report := by
  induction steps generalizing announcers with
  | nil => exact left
  | cons step steps ih =>
      have later := sound.step step
      have bound := (later.nextId_run steps).trans few
      have after : (announcers.step step).Patient id steps := by
        cases step with
        | change caller task => exact patient.2
        | queue caller => exact patient
      exact ih later few after fun key breakpoint found named =>
        sound.leavesTo bound patient left found named

/--
Once all callers have queued what they had to tell, the client has been told the state of every
breakpoint, in whatever order they came; and of a breakpoint that was never changed while a report
of it was still to be queued it has been told so last.
-/
theorem held_at_last (configuration : DebugConfiguration) (steps : List Step)
    (few : ((opened configuration).run steps).registry.nextId ≤ 2 ^ 63)
    (done : ((opened configuration).run steps).Done) :
    let last := (opened configuration).run steps
    ∀ key breakpoint, last.registry.breakpoints.get? key = some breakpoint →
      (∃ message ∈ last.queued, breakpoint.report ∈ message.told) ∧
        ((opened configuration).Patient (Int64.ofNat breakpoint.id) steps →
          last.held (Int64.ofNat breakpoint.id) = some breakpoint.report) := by
  intro last key breakpoint found
  have sound := sound_opened configuration
  have none (key : Nat) (breakpoint : LineBreakpoint)
      (found : (opened configuration).registry.breakpoints.get? key = some breakpoint) : False := by
    contradiction
  constructor
  · rcases sound.says_run few (fun key breakpoint found => (none key breakpoint found).elim)
      key breakpoint found with queued | ⟨caller, owed⟩
    · exact List.mem_flatMap.mp queued
    · rw [done caller] at owed
      contradiction
  · intro patient
    obtain ⟨caller, _, held⟩ := sound.leavesTo_run few patient
      (fun key breakpoint found => (none key breakpoint found).elim) key breakpoint found rfl
    rw [done caller] at held
    exact held

def asking : Step :=
  .change 0 (.request 1 { source := { path := some "play" }, breakpoints := some [{ line := 3 }] })

def loading : Step :=
  .change 1 (.register "play" 3 .start)

theorem held_at_last_of_loading :
    let last := (opened {}).run [asking, .queue 0, loading, .queue 1]
    last.registry.nextId ≤ 2 ^ 63 ∧ last.Done ∧
      last.held 1 = some
        { id := some 1, verified := true, source := some { path := some "play" }, line := some 3,
          endLine := some 3 } := by
  intro last
  have few : last.registry.nextId ≤ 2 ^ 63 := by decide
  have done : last.Done := by
    intro caller
    rcases caller with _ | _ | caller <;> rfl
  refine ⟨few, done, ?_⟩
  refine (held_at_last {} [asking, .queue 0, loading, .queue 1] few done 1
    { id := 1, source := { path := some "play" }, asked := { line := 3 }, clientPath := "play",
      runtimePath := "play", resolution := some ⟨true, 3, 4⟩ } (by decide)).2 ?_
  have serial : (opened {}).Serial [asking, .queue 0, loading, .queue 1] := by
    refine ⟨fun _ => rfl, ?_, trivial⟩
    intro caller
    rcases caller with _ | caller <;> rfl
  exact serial.patient

theorem held_overtaken :
    let last := (opened {}).run [asking, loading, .queue 1, .queue 0]
    last.Done ∧ ∃ breakpoint, last.registry.breakpoints.get? 1 = some breakpoint ∧
      breakpoint.report.verified = true ∧
      ∃ report, last.held (Int64.ofNat breakpoint.id) = some report ∧ report.verified = false := by
  intro last
  let current : Breakpoint :=
    { id := some 1, verified := true, source := some { path := some "play" }, line := some 3,
      endLine := some 3 }
  let stale : Breakpoint :=
    { id := some 1, verified := false, message := some notLoadedMessage,
      source := some { path := some "play" }, line := some 3 }
  have queued : last.queued = [.event (.breakpointChanged current),
      .response (.withBody 1 "setBreakpoints" (⟨[stale]⟩ : SetBreakpointsAnswer))] := rfl
  have told : last.queued.flatMap ServerMessage.told = [current, stale] := by
    rw [queued, List.flatMap_cons, List.flatMap_singleton, ServerMessage.told_breakpointChanged,
      ServerMessage.told_withBody]
    rfl
  refine ⟨?_, _, rfl, rfl, ?_⟩
  · intro caller
    rcases caller with _ | _ | caller <;> rfl
  · rw [held, told]
    exact ⟨stale, rfl, rfl⟩

end Announcers

end Debuggee
