import Debuggee.Proofs.Debugger.Lifecycle
import Debuggee.Proofs.Handoff.Tenancy

/-!
The attachments of a debugger. What its threads do to the place of the attached strategy are steps
of the callers and of the connection, in the order that is asked of them; so a debugger never has
two strategies attached.
-/

namespace Debuggee.Debugger

inductive Stand : List (Strategy × Tenancy.Stage) → List (Strategy × AttachStage) → Prop where
  | nil : Stand [] []
  | gone {callers attachments} {strategy : Strategy} {stage : Tenancy.Stage}
      (left : stage = .left ∨ stage = .told) (others : Stand callers attachments) :
      Stand ((strategy, stage) :: callers) attachments
  | inLine {callers attachments} {strategy : Strategy} (others : Stand callers attachments) :
      Stand ((strategy, .inLine) :: callers) ((strategy, .inLine) :: attachments)
  | attached {callers attachments} {strategy : Strategy} {stage : AttachStage}
      (out : stage ≠ .inLine)
      (others : Stand callers attachments) :
      Stand ((strategy, .attached) :: callers) ((strategy, stage) :: attachments)

attribute [ext] Handoff

variable {callers : List (Strategy × Tenancy.Stage)}
  {attachments : List (Strategy × AttachStage)} {debugger before after : Debugger}
  {tenancy : Tenancy Strategy} {action : Action} {effects : List Effect}

theorem Stand.enter (stand : Stand callers attachments) (strategy : Strategy) :
    Stand (callers ++ [(strategy, .inLine)]) (attachments ++ [(strategy, .inLine)]) := by
  induction stand with
  | nil => exact .inLine .nil
  | gone left _ ih => exact .gone left ih
  | inLine _ ih => exact .inLine ih
  | attached out _ ih => exact .attached out ih

theorem Stand.takePlace (stand : Stand callers attachments) (handoff : Handoff Strategy) :
    publishFirst handoff attachments = (handoff, attachments) ∨
      ∃ caller strategy, callers[caller]? = some (strategy, .inLine) ∧ handoff.strategy = none ∧
        (publishFirst handoff attachments).1 = { handoff with strategy := some strategy } ∧
        Stand (callers.set caller (strategy, .attached)) (publishFirst handoff attachments).2 := by
  induction stand with
  | nil => exact Or.inl rfl
  | gone left _ ih =>
      rcases ih with same | ⟨caller, strategy, waits, free, place, stand⟩
      · exact Or.inl same
      · exact Or.inr ⟨caller + 1, strategy, waits, free, place, .gone left stand⟩
  | @inLine _ _ strategy others _ =>
      rw [publishFirst, Handoff.publish?]
      cases free : handoff.strategy with
      | none => exact Or.inr ⟨0, strategy, rfl, rfl, rfl, .attached (by simp) others⟩
      | some other => exact Or.inl rfl
  | @attached _ _ strategy stage out _ ih =>
      have passes (others : List (Strategy × AttachStage)) :
          publishFirst handoff ((strategy, stage) :: others) =
            ((publishFirst handoff others).1,
              (strategy, stage) :: (publishFirst handoff others).2) := by
        cases stage with
        | inLine => contradiction
        | _ => rfl
      rw [passes]
      rcases ih with same | ⟨caller, strategy, waits, free, place, stand⟩
      · exact Or.inl (by rw [same])
      · exact Or.inr ⟨caller + 1, strategy, waits, free, place, .attached out stand⟩

theorem Stand.release (stand : Stand callers attachments) (released : Bool) :
    Stand callers (attachments.map fun (strategy, stage) =>
      (strategy, if stage = AttachStage.waiting ∧ released then .returned else stage)) := by
  induction stand with
  | nil => exact .nil
  | gone left _ ih => exact .gone left ih
  | inLine _ ih => exact .inLine ih
  | attached out _ ih =>
      refine .attached ?_ ih
      split
      · simp
      · exact out

theorem Stand.leave (stand : Stand callers attachments) {name : String}
    (apart : (attachments.map (·.1.name)).Nodup)
    (returned : (attachments.find? (·.1.name = name)).map (·.2) = some .returned) :
    ∃ caller strategy, callers[caller]? = some (strategy, .attached) ∧ strategy.name = name ∧
      Stand (callers.set caller (strategy, .told)) (attachments.filter (·.1.name ≠ name)) := by
  induction stand with
  | nil => simp at returned
  | gone left _ ih =>
      obtain ⟨caller, strategy, attached, named, stand⟩ := ih apart returned
      exact ⟨caller + 1, strategy, attached, named, .gone left stand⟩
  | @inLine _ _ strategy _ ih =>
      by_cases named : strategy.name = name
      · simp [named] at returned
      · rw [List.find?_cons_of_neg (by simpa using named)] at returned
        obtain ⟨caller, other, attached, same, stand⟩ := ih (List.nodup_cons.mp apart).2 returned
        refine ⟨caller + 1, other, attached, same, ?_⟩
        rw [List.filter_cons_of_pos (by simpa using named)]
        exact .inLine stand
  | @attached _ attachments strategy stage out others ih =>
      obtain ⟨unlike, apart⟩ := List.nodup_cons.mp apart
      by_cases named : strategy.name = name
      · have kept : attachments.filter (·.1.name ≠ name) = attachments := by
          rw [List.filter_eq_self]
          intro other member
          rw [← named, decide_eq_true_eq]
          intro same
          exact unlike (List.mem_map.mpr ⟨other, member, same⟩)
        refine ⟨0, strategy, rfl, named, ?_⟩
        rw [List.filter_cons_of_neg (by simpa using named), kept]
        exact .gone (Or.inr rfl) others
      · rw [List.find?_cons_of_neg (by simpa using named)] at returned
        obtain ⟨caller, other, attached, same, stand⟩ := ih apart returned
        refine ⟨caller + 1, other, attached, same, ?_⟩
        rw [List.filter_cons_of_pos (by simpa using named)]
        exact .attached out stand

theorem Stand.attached_iff (stand : Stand callers attachments) (strategy : Strategy) :
    (∃ caller : Nat, callers[caller]? = some (strategy, .attached)) ↔
      ∃ stage, (strategy, stage) ∈ attachments ∧ stage ≠ .inLine := by
  rw [← List.mem_iff_getElem?]
  induction stand with
  | nil => simp
  | gone left _ ih =>
      rw [← ih]
      rcases left with left | left <;> simp [left]
  | inLine _ ih => simp [ih, or_and_right, exists_or]
  | @attached _ _ other stage out _ ih =>
      rw [List.mem_cons, ih]
      constructor
      · rintro (same | ⟨stage, member, outside⟩)
        · cases same
          exact ⟨stage, List.mem_cons_self, out⟩
        · exact ⟨stage, List.mem_cons_of_mem _ member, outside⟩
      · rintro ⟨found, member, outside⟩
        rcases List.mem_cons.mp member with same | member
        · cases same
          exact Or.inl rfl
        · exact Or.inr ⟨found, member, outside⟩

def NamesApart (debugger : Debugger) : Prop :=
  (debugger.attachments.map (·.1.name)).Nodup

theorem names_publishFirst (handoff : Handoff Strategy)
    (attachments : List (Strategy × AttachStage)) :
    (publishFirst handoff attachments).2.map (·.1.name) = attachments.map (·.1.name) := by
  induction attachments with
  | nil => rfl
  | cons attachment attachments ih =>
      obtain ⟨strategy, stage⟩ := attachment
      cases stage with
      | inLine =>
          rw [publishFirst]
          cases handoff.publish? strategy <;> rfl
      | waiting => exact congrArg (strategy.name :: ·) ih
      | returned => exact congrArg (strategy.name :: ·) ih

theorem NamesApart.perform (apart : debugger.NamesApart) (action : Action) :
    (debugger.perform action).1.NamesApart := by
  by_cases other : action.attaches = false
  · rw [NamesApart, ((move_perform debugger action).attached other).1]
    exact apart
  · cases action with
    | enter strategy =>
        rw [Debugger.perform]
        by_cases unknown : debugger.stage? strategy.name = none
        · rw [if_pos unknown]
          have unlike : ∀ attachment ∈ debugger.attachments, attachment.1.name ≠ strategy.name := by
            simpa [stage?] using unknown
          simp only [NamesApart, Debugger.enter, List.map_append, List.map_cons, List.map_nil]
          rw [List.nodup_append_comm, List.singleton_append, List.nodup_cons]
          refine ⟨?_, apart⟩
          intro member
          obtain ⟨attachment, known, same⟩ := List.mem_map.mp member
          exact unlike attachment known same
        · rw [if_neg unknown]
          exact apart
    | takePlace =>
        have same := names_publishFirst debugger.handoff debugger.attachments
        simp only [Debugger.perform, NamesApart, Debugger.takePlace, same]
        exact apart
    | release =>
        simp only [Debugger.perform, NamesApart, Debugger.release, List.map_map]
        exact apart
    | leave name =>
        rw [Debugger.perform]
        split
        · exact apart.sublist (List.filter_sublist.map _)
        · exact apart
    | _ => exact absurd rfl other

theorem apart_after (config : Config) (pid : UInt32) (directory : Option Discovery.Directory)
    (actions : List Action) : ((fresh config pid directory).after actions).NamesApart := by
  induction actions using List.reverseRecOn with
  | nil => exact List.nodup_nil
  | append_singleton actions action ih =>
      rw [after_concat]
      exact ih.perform action

structure Mirrors (debugger : Debugger) (tenancy : Tenancy Strategy) : Prop where
  handoff : tenancy.handoff = debugger.handoff
  stand : Stand tenancy.callers debugger.attachments
  serving : debugger.phase ≠ .finished → tenancy.duty = .serving

def toldNames (tenancy : Tenancy Strategy) : List String :=
  tenancy.endings.map (·.2.name)

def Covers (tenancy : Tenancy Strategy) (after : Debugger) (effects : List Effect) : Prop :=
  ∃ steps : List (Tenancy.Step Strategy), after.Mirrors (steps.foldl Tenancy.step tenancy) ∧
    toldNames (steps.foldl Tenancy.step tenancy) = toldNames tenancy ++ endings effects

theorem Mirrors.rest (mirrors : before.Mirrors tenancy) (handoff : after.handoff = before.handoff)
    (attachments : after.attachments = before.attachments)
    (unfinished : after.phase ≠ .finished → before.phase ≠ .finished)
    (silent : endings effects = []) : Covers tenancy after effects := by
  refine ⟨[], ⟨?_, ?_, ?_⟩, by simp [silent]⟩
  · rw [handoff]
    exact mirrors.handoff
  · rw [attachments]
    exact mirrors.stand
  · intro later
    exact mirrors.serving (unfinished later)

theorem Mirrors.finish (mirrors : before.Mirrors tenancy) (going : before.phase ≠ .finished)
    (handoff : after.handoff = before.handoff.endSession)
    (attachments : after.attachments = before.attachments) (finished : after.phase = .finished)
    (told : endings effects = before.attachedName.toList) : Covers tenancy after effects := by
  have serving := mirrors.serving going
  refine ⟨[.finish, .look, .tellLast], ⟨?_, ?_, absurd finished⟩, ?_⟩
  · simp [Tenancy.step, serving, handoff, mirrors.handoff]
  · simp only [List.foldl_cons, List.foldl_nil, Tenancy.step, serving, attachments]
    exact mirrors.stand
  · have place : tenancy.handoff.endSession.strategy = before.handoff.strategy := by
      rw [mirrors.handoff]
      rfl
    rw [told, attachedName]
    simp only [List.foldl_cons, List.foldl_nil, Tenancy.step, serving, toldNames, place,
      List.map_append, List.map_map]
    cases before.handoff.strategy <;> rfl

theorem Mirrors.session (mirrors : before.Mirrors tenancy) (going : before.phase ≠ .finished)
    {ending : Bool} (handoff : after.handoff = { before.handoff with sessionEnding := ending })
    (attachments : after.attachments = before.attachments) (silent : endings effects = []) :
    Covers tenancy after effects := by
  have serving := mirrors.serving going
  refine ⟨[if ending then .endSession else .beginSession], ⟨?_, ?_, ?_⟩, ?_⟩
  · cases ending <;> simp [Tenancy.step, serving, handoff, mirrors.handoff, Handoff.endSession,
      Handoff.beginSession]
  · rw [attachments]
    cases ending <;> simpa [Tenancy.step, serving] using mirrors.stand
  · intro _
    cases ending <;> simp [Tenancy.step, serving]
  · cases ending <;> simp [Tenancy.step, serving, toldNames, silent]

theorem Mirrors.advance {occurrence : Occurrence} (mirrors : before.Mirrors tenancy)
    (advance : Advance before occurrence after effects) : Covers tenancy after effects := by
  cases advance with
  | passed _ => exact mirrors.rest rfl rfl id rfl
  | cancelled => exact mirrors.rest rfl rfl id rfl
  | @bound options address binding =>
      obtain ⟨_, _, same⟩ := before.advertise_eq options address
      rw [same]
      exact mirrors.rest rfl rfl (by simp [binding]) rfl
  | unbound binding => exact mirrors.finish (by simp [binding]) rfl rfl rfl before.endings_finish
  | opened waiting _ => exact mirrors.session (by simp [waiting]) rfl rfl rfl
  | closed serving => exact mirrors.session (by simp [serving]) rfl rfl rfl
  | resumed listening _ =>
      refine mirrors.rest rfl rfl ?_ rfl
      rcases listening with listening | leaving <;> simp [*]
  | finished last _ =>
      exact mirrors.finish last.unfinished.2.1 rfl rfl rfl before.endings_finish

theorem Mirrors.takePlace (mirrors : before.Mirrors tenancy) :
    Covers tenancy before.takePlace [] := by
  rcases mirrors.stand.takePlace before.handoff with
    same | ⟨caller, strategy, inLine, free, place, stand⟩
  · have handoff : before.takePlace.handoff = before.handoff := by
      rw [Debugger.takePlace, same]
    have attachments : before.takePlace.attachments = before.attachments := by
      rw [Debugger.takePlace, same]
    exact mirrors.rest handoff attachments id rfl
  · have published : tenancy.step (.publish caller) = { tenancy with
        handoff := { before.handoff with strategy := some strategy }
        callers := tenancy.callers.set caller (strategy, .attached) } := by
      rw [Tenancy.step, inLine]
      simp [Handoff.publish?, mirrors.handoff, free]
    refine ⟨[.publish caller], ?_, ?_⟩
    · rw [List.foldl_cons, List.foldl_nil, published]
      exact ⟨place.symm, stand, mirrors.serving⟩
    · rw [List.foldl_cons, List.foldl_nil, published]
      exact (List.append_nil _).symm

theorem Mirrors.leave (mirrors : before.Mirrors tenancy) (apart : before.NamesApart)
    {name : String} (returned : before.stage? name = some .returned) :
    Covers tenancy (before.leave name).1 (before.leave name).2 := by
  obtain ⟨caller, strategy, attached, named, stand⟩ := mirrors.stand.leave apart returned
  have told := Tenancy.drop_eq attached
  rw [mirrors.handoff] at told
  refine ⟨[.unpublish caller, .tell caller], ?_, ?_⟩
  · rw [List.foldl_cons, List.foldl_cons, List.foldl_nil, told]
    exact ⟨rfl, stand, mirrors.serving⟩
  · rw [List.foldl_cons, List.foldl_cons, List.foldl_nil, told, toldNames, List.map_append,
      ← named]
    rfl

theorem Mirrors.perform (mirrors : before.Mirrors tenancy) (sound : before.Sound)
    (apart : before.NamesApart) (action : Action) :
    Covers tenancy (before.perform action).1 (before.perform action).2 := by
  by_cases other : action.attaches = false
  · have move := move_perform before action
    obtain ⟨attachments, strategy⟩ := move.attached other
    generalize (before.perform action).1 = after at *
    generalize (before.perform action).2 = effects at *
    cases move with
    | refused _ => exact mirrors.rest rfl rfl id rfl
    | bind unknown _ =>
        exact mirrors.rest rfl rfl (by simp [sound.notStarted unknown]) rfl
    | dial unknown _ =>
        exact mirrors.rest rfl rfl (by simp [sound.notStarted unknown]) rfl
    | advance advance => exact mirrors.advance advance
    | aside _ aside =>
        refine mirrors.rest (Handoff.ext strategy aside.sessionEnding) attachments ?_ ?_
        · rw [aside.phase]
          exact id
        · apply List.filterMap_eq_nil_iff.mpr
          intro effect member
          cases effect with
          | ended name =>
              rw [aside.ended name member] at other
              contradiction
          | _ => rfl
  · cases action with
    | enter strategy =>
        rw [Debugger.perform]
        split
        · exact ⟨[.ask strategy], ⟨mirrors.handoff, mirrors.stand.enter strategy, mirrors.serving⟩,
            (List.append_nil _).symm⟩
        · exact mirrors.rest rfl rfl id rfl
    | takePlace => exact mirrors.takePlace
    | release =>
        exact ⟨[], ⟨mirrors.handoff, mirrors.stand.release _, mirrors.serving⟩,
          (List.append_nil _).symm⟩
    | leave name =>
        rw [Debugger.perform]
        split
        · rename_i returned
          exact mirrors.leave apart returned
        · exact mirrors.rest rfl rfl id rfl
    | _ => exact absurd rfl other

/-- Every history of a debugger uses the place as its callers and the connection may. -/
theorem exists_mirrors (config : Config) (pid : UInt32) (directory : Option Discovery.Directory)
    (actions : List Action) :
    ∃ steps : List (Tenancy.Step Strategy),
      ((fresh config pid directory).after actions).Mirrors (Tenancy.run steps) ∧
        toldNames (Tenancy.run steps) = endings ((fresh config pid directory).effects actions) := by
  induction actions using List.reverseRecOn with
  | nil => exact ⟨[], ⟨rfl, .nil, fun _ => rfl⟩, rfl⟩
  | append_singleton actions action ih =>
      obtain ⟨steps, mirrors, told⟩ := ih
      obtain ⟨more, mirrors, toldMore⟩ := mirrors.perform
        (sound_after config pid directory actions) (apart_after config pid directory actions) action
      refine ⟨steps ++ more, ?_, ?_⟩
      · rw [after_concat, Tenancy.run, List.foldl_append]
        exact mirrors
      · rw [effects_concat, endings, List.filterMap_append, Tenancy.run, List.foldl_append]
        exact toldMore.trans (congrArg (· ++ _) told)

/-- The strategy in the place is the one whose call has come past the line, and it is alone. -/
theorem attached_iff (config : Config) (pid : UInt32) (directory : Option Discovery.Directory)
    (actions : List Action) (strategy : Strategy) :
    let debugger := (fresh config pid directory).after actions
    debugger.handoff.strategy = some strategy ↔
      ∃ stage, (strategy, stage) ∈ debugger.attachments ∧ stage ≠ .inLine := by
  intro debugger
  obtain ⟨steps, mirrors, _⟩ := exists_mirrors config pid directory actions
  obtain ⟨owner, owned⟩ := Tenancy.owned_run steps
  rw [← mirrors.stand.attached_iff, ← mirrors.handoff]
  exact owned.strategy_iff strategy

end Debuggee.Debugger
