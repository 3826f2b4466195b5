import Debuggee.Proofs.Debugger.Told

/-!
The discovery file of a debugger. It is there from the moment the listener has its address, if it
could be written, until the connection ends; nothing else in the directory is changed.
-/

namespace Debuggee

namespace Discovery

theorem lookup_put (directory : Directory) (name : Bytes) (entry : Entry) :
    (put directory name entry).lookup name = some entry := by
  have absent : (directory.filter (·.1 ≠ name)).lookup name = none := by
    rw [List.lookup_eq_none_iff]
    intro other member
    have different := of_decide_eq_true (List.mem_filter.mp member).2
    exact bne_iff_ne.mpr (Ne.symm different)
  rw [put, List.lookup_append, absent]
  simp

theorem remove_put (directory : Directory) (name content : Bytes) :
    remove (put directory name (.file content)) name = .ok (directory.filter (·.1 ≠ name)) := by
  rw [remove, lookup_put, put]
  simp

end Discovery

namespace Debugger

variable {before after : Debugger} {action : Action} {effects : List Effect}
  {occurrence : Occurrence} {pid : UInt32} {directory : Option Discovery.Directory}

def discoveryName (pid : UInt32) : Bytes :=
  Bytes.ofString (Discovery.fileName pid)

structure Filed (pid : UInt32) (directory : Option Discovery.Directory) (debugger : Debugger) :
    Prop where
  numbered : debugger.pid = pid
  unadvertised : debugger.phase.isAddressed = false → debugger.discoverable = false
  unwritten : debugger.discoverable = false → debugger.directory = directory
  written : debugger.discoverable = true → debugger.phase ≠ .finished →
    ∃ entries content, directory = some entries ∧
      debugger.directory = some (Discovery.put entries (discoveryName pid) (.file content))
  removed : debugger.discoverable = true → debugger.phase = .finished →
    debugger.directory = directory.map fun entries => entries.filter (·.1 ≠ discoveryName pid)

theorem filed_fresh (config : Config) (pid : UInt32) (directory : Option Discovery.Directory) :
    Filed pid directory (fresh config pid directory) := by
  constructor
  · rfl
  · exact fun _ => rfl
  · exact fun _ => rfl
  · intro written
    contradiction
  · intro written
    contradiction

theorem Filed.keep (filed : Filed pid directory before) (samePid : after.pid = before.pid)
    (sameDirectory : after.directory = before.directory)
    (sameFlag : after.discoverable = before.discoverable)
    (addressed : after.phase.isAddressed = false → before.phase.isAddressed = false)
    (finished : after.phase = .finished ↔ before.phase = .finished) :
    Filed pid directory after := by
  constructor
  · rw [samePid, filed.numbered]
  · intro unaddressed
    rw [sameFlag]
    exact filed.unadvertised (addressed unaddressed)
  · rw [sameFlag, sameDirectory]
    exact filed.unwritten
  · rw [sameFlag, sameDirectory, ne_eq, finished]
    exact filed.written
  · rw [sameFlag, sameDirectory, finished]
    exact filed.removed

theorem Filed.finish (filed : Filed pid directory before) (unfinished : before.phase ≠ .finished) :
    Filed pid directory before.finish.1 := by
  have name : Bytes.ofString (Discovery.fileName before.pid) = discoveryName pid := by
    rw [filed.numbered, discoveryName]
  unfold Debugger.finish
  dsimp only
  by_cases discoverable : before.discoverable = true
  · obtain ⟨entries, content, known, holds⟩ := filed.written discoverable unfinished
    rw [if_pos discoverable, name, holds, Option.map_some, Discovery.remove_put]
    constructor
    · exact filed.numbered
    · intro unaddressed
      contradiction
    · intro hidden
      rw [discoverable] at hidden
      contradiction
    · intro _ open'
      contradiction
    · intro _ _
      rw [known]
      rfl
  · rw [if_neg discoverable]
    constructor
    · exact filed.numbered
    · intro unaddressed
      contradiction
    · exact filed.unwritten
    · intro written
      contradiction
    · intro written
      contradiction

theorem Filed.advertise (filed : Filed pid directory before) (binding : before.phase = .binding)
    (options : StartOptions) (address : Address) :
    Filed pid directory { before.advertise options address with phase := .listening } := by
  have hidden := filed.unadvertised (by rw [binding]; rfl)
  rcases before.advertise_cases options address with same | ⟨entries, content, known, same⟩
  · rw [same]
    refine filed.keep rfl rfl rfl ?_ ?_
    · intro unaddressed
      contradiction
    · simp [binding]
  · rw [same]
    constructor
    · exact filed.numbered
    · intro unaddressed
      contradiction
    · intro hidden
      contradiction
    · intro _ _
      refine ⟨entries, content, by rw [← filed.unwritten hidden, known], ?_⟩
      rw [discoveryName, ← filed.numbered]
    · intro _ finished
      contradiction

theorem Advance.filed (advance : Advance before occurrence after effects)
    (filed : Filed pid directory before) : Filed pid directory after := by
  cases advance with
  | passed _ => exact filed
  | cancelled => exact filed.keep rfl rfl rfl id Iff.rfl
  | bound binding => exact filed.advertise binding _ _
  | unbound binding => exact filed.finish (by simp [binding])
  | opened waiting _ =>
      refine filed.keep rfl rfl rfl ?_ ?_
      · intro unaddressed
        contradiction
      · exact iff_of_false (by simp [openSession]) (by simp [waiting])
  | closed serving =>
      refine filed.keep rfl rfl rfl ?_ ?_
      · intro unaddressed
        contradiction
      · simp [serving, closeSession]
  | resumed listening _ =>
      refine filed.keep rfl rfl rfl ?_ ?_
      · intro unaddressed
        contradiction
      · rcases listening with same | same <;> simp [same]
  | @finished _ canceller last _ =>
      have kept : Filed pid directory { before with canceller := canceller } :=
        filed.keep rfl rfl rfl id Iff.rfl
      exact kept.finish last.unfinished.2.1

theorem Filed.move (sound : before.Sound) (filed : Filed pid directory before)
    (move : Move before action after effects) : Filed pid directory after := by
  cases move with
  | refused _ => exact filed
  | bind unknown _ =>
      have begins := sound.notStarted unknown
      exact filed.keep rfl rfl rfl (fun _ => by rw [begins]; rfl) (by simp [begins])
  | dial unknown _ =>
      have begins := sound.notStarted unknown
      exact filed.keep rfl rfl rfl (fun _ => by rw [begins]; rfl) (by simp [begins])
  | advance advance => exact advance.filed filed
  | aside _ aside =>
      refine filed.keep aside.pid aside.directory aside.discoverable ?_ ?_
      · rw [aside.phase]
        exact id
      · rw [aside.phase]

theorem filed_after (config : Config) (pid : UInt32) (directory : Option Discovery.Directory)
    (actions : List Action) :
    Filed pid directory ((fresh config pid directory).after actions) := by
  induction actions using List.reverseRecOn with
  | nil => exact filed_fresh config pid directory
  | append_singleton actions action ih =>
      rw [after_concat]
      exact ih.move (sound_after config pid directory actions) (move_perform _ action)

end Debugger

end Debuggee
