import Debuggee.Session.Handoff
import Mathlib

/-!
The place of the attached strategy and those who use it. A caller stands in line, has the place,
leaves it and then tells its strategy that it is over. The connection opens and ends sessions
meanwhile, and at its own end it tells the strategy that it finds attached.
-/

namespace Debuggee

inductive Tenancy.Stage where
  | inLine
  | attached
  | left
  | told
  deriving DecidableEq, Repr

inductive Tenancy.Duty (σ : Type) where
  | serving
  | ended
  | looked (found : Option σ)
  | done (found : Option σ)
  deriving DecidableEq, Repr

structure Tenancy (σ : Type) where
  handoff : Handoff σ := {}
  callers : List (σ × Tenancy.Stage) := []
  duty : Tenancy.Duty σ := .serving
  /-- Who told which strategy that it is over: a caller, by its number, or the connection. -/
  endings : List (Option Nat × σ) := []
  deriving DecidableEq, Repr

namespace Tenancy

variable {σ : Type} {before after tenancy : Tenancy σ}

inductive Step (σ : Type) where
  | ask (strategy : σ)
  | publish (caller : Nat)
  | unpublish (caller : Nat)
  | tell (caller : Nat)
  | beginSession
  | endSession
  | finish
  | look
  | tellLast
  deriving DecidableEq, Repr

/-- Each caller and the connection keep to their own order; a step out of turn changes nothing. -/
def step (tenancy : Tenancy σ) : Step σ → Tenancy σ
  | .ask strategy => { tenancy with callers := tenancy.callers ++ [(strategy, .inLine)] }
  | .publish caller =>
    match tenancy.callers[caller]? with
    | some (strategy, .inLine) =>
      match tenancy.handoff.publish? strategy with
      | some handoff =>
        { tenancy with
          handoff := handoff
          callers := tenancy.callers.set caller (strategy, .attached) }
      | none => tenancy
    | _ => tenancy
  | .unpublish caller =>
    match tenancy.callers[caller]? with
    | some (strategy, .attached) =>
      { tenancy with
        handoff := tenancy.handoff.unpublish.2
        callers := tenancy.callers.set caller (strategy, .left) }
    | _ => tenancy
  | .tell caller =>
    match tenancy.callers[caller]? with
    | some (strategy, .left) =>
      { tenancy with
        callers := tenancy.callers.set caller (strategy, .told)
        endings := tenancy.endings ++ [(some caller, strategy)] }
    | _ => tenancy
  | .beginSession =>
    match tenancy.duty with
    | .serving => { tenancy with handoff := tenancy.handoff.beginSession }
    | _ => tenancy
  | .endSession =>
    match tenancy.duty with
    | .serving => { tenancy with handoff := tenancy.handoff.endSession }
    | _ => tenancy
  | .finish =>
    match tenancy.duty with
    | .serving => { tenancy with handoff := tenancy.handoff.endSession, duty := .ended }
    | _ => tenancy
  | .look =>
    match tenancy.duty with
    | .ended => { tenancy with duty := .looked tenancy.handoff.strategy }
    | _ => tenancy
  | .tellLast =>
    match tenancy.duty with
    | .looked found =>
      { tenancy with
        duty := .done found
        endings := tenancy.endings ++ found.toList.map fun strategy => (none, strategy) }
    | _ => tenancy

def run (steps : List (Step σ)) : Tenancy σ :=
  steps.foldl step {}

theorem run_concat (steps : List (Step σ)) (last : Step σ) :
    run (steps ++ [last]) = (run steps).step last :=
  List.foldl_append

inductive Change (before : Tenancy σ) : Step σ → Tenancy σ → Prop where
  | passed {step : Step σ} : Change before step before
  | asked (strategy : σ) :
      Change before (.ask strategy)
        { before with callers := before.callers ++ [(strategy, .inLine)] }
  | published {caller : Nat} {strategy : σ}
      (inLine : before.callers[caller]? = some (strategy, .inLine))
      (free : before.handoff.strategy = none) :
      Change before (.publish caller)
        { before with
          handoff := { before.handoff with strategy := some strategy }
          callers := before.callers.set caller (strategy, .attached) }
  | unpublished {caller : Nat} {strategy : σ}
      (attached : before.callers[caller]? = some (strategy, .attached)) :
      Change before (.unpublish caller)
        { before with
          handoff := { before.handoff with strategy := none }
          callers := before.callers.set caller (strategy, .left) }
  | told {caller : Nat} {strategy : σ}
      (left : before.callers[caller]? = some (strategy, .left)) :
      Change before (.tell caller)
        { before with
          callers := before.callers.set caller (strategy, .told)
          endings := before.endings ++ [(some caller, strategy)] }
  | session {step : Step σ} (ending : Bool) (serving : before.duty = .serving) :
      Change before step { before with handoff := { before.handoff with sessionEnding := ending } }
  | finished (serving : before.duty = .serving) :
      Change before .finish
        { before with handoff := { before.handoff with sessionEnding := true }, duty := .ended }
  | looked (ended : before.duty = .ended) :
      Change before .look { before with duty := .looked before.handoff.strategy }
  | toldLast {found : Option σ} (looked : before.duty = .looked found) :
      Change before .tellLast
        { before with
          duty := .done found
          endings := before.endings ++ found.toList.map fun strategy => (none, strategy) }

theorem change_step (tenancy : Tenancy σ) (step : Step σ) :
    Change tenancy step (tenancy.step step) := by
  cases step with
  | ask strategy => exact .asked strategy
  | publish caller =>
      rw [Tenancy.step]
      split
      · rename_i strategy inLine
        rw [Handoff.publish?]
        cases free : tenancy.handoff.strategy with
        | none => exact .published inLine free
        | some other => exact .passed
      · exact .passed
  | unpublish caller =>
      rw [Tenancy.step]
      split
      · exact .unpublished ‹_›
      · exact .passed
  | tell caller =>
      rw [Tenancy.step]
      split
      · exact .told ‹_›
      · exact .passed
  | beginSession =>
      rw [Tenancy.step]
      split
      · exact .session false ‹_›
      · exact .passed
  | endSession =>
      rw [Tenancy.step]
      split
      · exact .session true ‹_›
      · exact .passed
  | finish =>
      rw [Tenancy.step]
      split
      · exact .finished ‹_›
      · exact .passed
  | look =>
      rw [Tenancy.step]
      split
      · exact .looked ‹_›
      · exact .passed
  | tellLast =>
      rw [Tenancy.step]
      split
      · exact .toldLast ‹_›
      · exact .passed

theorem holds_run {Holds : Tenancy σ → Prop} (first : Holds {})
    (kept : ∀ {before step after}, Holds before → Change before step after → Holds after)
    (steps : List (Step σ)) : Holds (run steps) := by
  induction steps using List.reverseRecOn with
  | nil => exact first
  | append_singleton steps last ih =>
      rw [run_concat]
      exact kept ih (change_step _ last)

theorem getElem?_set_caller {callers : List (σ × Stage)} {caller : Nat} {old : σ × Stage}
    (known : callers[caller]? = some old) (new : σ × Stage) (other : Nat) :
    (callers.set caller new)[other]? = if other = caller then some new else callers[other]? := by
  have bound : caller < callers.length := (List.getElem?_eq_some_iff.mp known).1
  rw [List.getElem?_set]
  by_cases same : caller = other
  · subst same
    simp [bound]
  · simp [same, Ne.symm same]

theorem drop_eq {caller : Nat} {strategy : σ}
    (attached : tenancy.callers[caller]? = some (strategy, .attached)) :
    (tenancy.step (.unpublish caller)).step (.tell caller) = { tenancy with
      handoff := tenancy.handoff.unpublish.2
      callers := tenancy.callers.set caller (strategy, .told)
      endings := tenancy.endings ++ [(some caller, strategy)] } := by
  have unpublished : tenancy.step (.unpublish caller) = { tenancy with
      handoff := tenancy.handoff.unpublish.2
      callers := tenancy.callers.set caller (strategy, .left) } := by
    rw [step, attached]
  have left : (tenancy.callers.set caller (strategy, .left))[caller]? = some (strategy, .left) := by
    rw [getElem?_set_caller attached, if_pos rfl]
  rw [unpublished, step, left]
  simp

theorem getElem?_concat_caller (callers : List (σ × Stage)) (new : σ × Stage) (caller : Nat) :
    (callers ++ [new])[caller]? =
      if caller = callers.length then some new else callers[caller]? := by
  by_cases last : caller = callers.length
  · simp [last]
  · rw [if_neg last, List.getElem?_append]
    split
    · rfl
    · rw [List.getElem?_eq_none (by simp; omega), List.getElem?_eq_none (by omega)]

def Attached (tenancy : Tenancy σ) (caller : Nat) (strategy : σ) : Prop :=
  tenancy.callers[caller]? = some (strategy, .attached)

theorem attached_set_iff {caller : Nat} {strategy : σ} {stage next : Stage}
    (known : before.callers[caller]? = some (strategy, stage))
    (sets : after.callers = before.callers.set caller (strategy, next)) (other : Nat) (held : σ) :
    after.Attached other held ↔
      if other = caller then strategy = held ∧ next = .attached
      else before.Attached other held := by
  rw [Attached, sets, getElem?_set_caller known]
  by_cases same : other = caller
  · simp [same]
  · rw [if_neg same, if_neg same, Attached]

/-! The place has one owner at most: a caller that has attached its strategy and not left. -/

structure OwnedBy (tenancy : Tenancy σ) (owner : Option (Nat × σ)) : Prop where
  place : tenancy.handoff.strategy = owner.map Prod.snd
  attached : ∀ caller strategy,
    tenancy.Attached caller strategy ↔ owner = some (caller, strategy)

theorem Change.owned {step : Step σ} (change : Change before step after)
    (owned : ∃ owner, before.OwnedBy owner) : ∃ owner, after.OwnedBy owner := by
  obtain ⟨owner, owned⟩ := owned
  cases change with
  | asked strategy =>
      refine ⟨owner, owned.place, ?_⟩
      intro caller held
      rw [← owned.attached, Attached, Attached, getElem?_concat_caller]
      by_cases last : caller = before.callers.length
      · simp [last]
      · rw [if_neg last]
  | @published caller strategy inLine free =>
      have none : owner = .none := by
        have place := owned.place
        rw [free] at place
        exact Option.map_eq_none_iff.mp place.symm
      refine ⟨some (caller, strategy), rfl, ?_⟩
      intro other held
      rw [attached_set_iff inLine rfl, owned.attached]
      by_cases same : other = caller
      · simp [same]
      · simp [same, none, Ne.symm same]
  | @unpublished caller strategy attached =>
      have own := (owned.attached caller strategy).mp attached
      refine ⟨none, rfl, ?_⟩
      intro other held
      rw [attached_set_iff attached rfl, owned.attached]
      by_cases same : other = caller
      · simp [same]
      · simp [same, own, Ne.symm same]
  | @told caller strategy left =>
      refine ⟨owner, owned.place, ?_⟩
      intro other held
      rw [← owned.attached, attached_set_iff left rfl]
      by_cases same : other = caller
      · simp [same, Attached, left]
      · rw [if_neg same]
  | _ => exact ⟨owner, owned.place, owned.attached⟩

theorem owned_run (steps : List (Step σ)) : ∃ owner, (run steps).OwnedBy owner :=
  holds_run ⟨none, rfl, by simp [Attached]⟩ (fun owned change => change.owned owned) steps

/-! What strategies are told, and by whom. -/

def toldBy (tenancy : Tenancy σ) (source : Option Nat) : List σ :=
  (tenancy.endings.filter (·.1 = source)).map Prod.snd

def Stage.told? : Option (σ × Stage) → Option σ
  | some (strategy, .told) => some strategy
  | _ => none

def Duty.told? : Duty σ → Option σ
  | .done found => found
  | _ => none

structure Accounted (tenancy : Tenancy σ) : Prop where
  callers : ∀ caller,
    tenancy.toldBy (some caller) = (Stage.told? tenancy.callers[caller]?).toList
  connection : tenancy.toldBy none = tenancy.duty.told?.toList

theorem told?_set_caller {callers : List (σ × Stage)} {caller : Nat} {strategy : σ}
    {stage next : Stage} (known : callers[caller]? = some (strategy, stage))
    (untold : stage ≠ .told) (silent : next ≠ .told) (other : Nat) :
    Stage.told? (callers.set caller (strategy, next))[other]? = Stage.told? callers[other]? := by
  rw [getElem?_set_caller known]
  by_cases self : other = caller
  · simp [self, known, Stage.told?, untold, silent]
  · rw [if_neg self]

theorem Change.accounted {step : Step σ} (change : Change before step after)
    (accounted : before.Accounted) : after.Accounted := by
  obtain ⟨callers, connection⟩ := accounted
  cases change with
  | passed => exact ⟨callers, connection⟩
  | asked strategy =>
      refine ⟨?_, connection⟩
      intro caller
      refine (callers caller).trans ?_
      rw [getElem?_concat_caller]
      by_cases last : caller = before.callers.length
      · simp [last, Stage.told?]
      · rw [if_neg last]
  | published inLine _ =>
      refine ⟨?_, connection⟩
      intro other
      refine (callers other).trans (congrArg _ ?_)
      exact (told?_set_caller inLine (by simp) (by simp) other).symm
  | unpublished attached =>
      refine ⟨?_, connection⟩
      intro other
      refine (callers other).trans (congrArg _ ?_)
      exact (told?_set_caller attached (by simp) (by simp) other).symm
  | @told caller strategy left =>
      constructor
      · intro other
        have earlier := callers other
        rw [toldBy] at earlier
        rw [toldBy, List.filter_append, List.map_append, earlier, getElem?_set_caller left]
        by_cases self : other = caller
        · simp [self, left, Stage.told?]
        · simp [self, Ne.symm self]
      · have earlier := connection
        rw [toldBy] at earlier
        simp [toldBy, List.filter_append, earlier]
  | session _ _ => exact ⟨callers, connection⟩
  | finished serving =>
      refine ⟨callers, connection.trans ?_⟩
      rw [serving]
      rfl
  | looked ended =>
      refine ⟨callers, connection.trans ?_⟩
      rw [ended]
      rfl
  | @toldLast found looked =>
      constructor
      · intro caller
        have earlier := callers caller
        rw [toldBy] at earlier
        simp [toldBy, List.filter_append, earlier, List.filter_map]
      · rw [looked] at connection
        rw [toldBy] at connection
        simp [toldBy, List.filter_append, connection, Duty.told?, List.filter_map]

theorem accounted_run (steps : List (Step σ)) : (run steps).Accounted :=
  holds_run ⟨fun _ => rfl, rfl⟩ (fun accounted change => change.accounted accounted) steps

def Duty.found? : Duty σ → Option (Option σ)
  | .looked found => some found
  | .done found => some found
  | _ => none

theorem Change.found {step : Step σ} (change : Change before step after) {found : Option σ}
    (known : after.duty.found? = some found) :
    before.duty.found? = some found ∨ step = .look ∧ before.handoff.strategy = found := by
  cases change with
  | finished _ => contradiction
  | looked _ =>
      cases known
      exact Or.inr ⟨rfl, rfl⟩
  | toldLast looked =>
      rw [looked]
      exact Or.inl known
  | _ => exact Or.inl known

theorem looked_run {steps : List (Step σ)} {found : Option σ}
    (known : (run steps).duty.found? = some found) :
    ∃ earlier later,
      steps = earlier ++ .look :: later ∧ (run earlier).handoff.strategy = found := by
  induction steps using List.reverseRecOn with
  | nil => contradiction
  | append_singleton steps last ih =>
      rw [run_concat] at known
      rcases (change_step _ last).found known with already | ⟨look, strategy⟩
      · obtain ⟨earlier, later, split, strategy⟩ := ih already
        exact ⟨earlier, later ++ [last], by simp [split], strategy⟩
      · exact ⟨steps, [], by rw [look], strategy⟩

theorem OwnedBy.strategy_iff {owner : Option (Nat × σ)} (owned : tenancy.OwnedBy owner)
    (strategy : σ) : tenancy.handoff.strategy = some strategy ↔
      ∃ caller, tenancy.Attached caller strategy := by
  simp only [owned.place, owned.attached]
  constructor
  · intro held
    obtain ⟨⟨caller, held⟩, own, rfl⟩ := Option.map_eq_some_iff.mp held
    exact ⟨caller, own⟩
  · rintro ⟨caller, own⟩
    rw [own]
    rfl

theorem OwnedBy.alone {owner : Option (Nat × σ)} (owned : tenancy.OwnedBy owner)
    {caller other : Nat} {strategy rival : σ} (attached : tenancy.Attached caller strategy)
    (rivals : tenancy.Attached other rival) : caller = other := by
  have own := (owned.attached caller strategy).mp attached
  have same := (owned.attached other rival).mp rivals
  rw [own] at same
  cases same
  rfl

theorem OwnedBy.wait_eq_ended_iff {owner : Option (Nat × σ)} (owned : tenancy.OwnedBy owner) :
    tenancy.handoff.wait = .ended ↔
      (∀ caller strategy, ¬tenancy.Attached caller strategy) ∧
        tenancy.handoff.sessionEnding = true := by
  have unattached : tenancy.handoff.strategy = none ↔
      ∀ caller strategy, ¬tenancy.Attached caller strategy := by
    rw [Option.eq_none_iff_forall_ne_some]
    simp only [ne_eq, owned.strategy_iff, not_exists]
    exact forall_comm
  rw [← unattached, Handoff.wait]
  cases tenancy.handoff.strategy with
  | some strategy => simp
  | none => simp

theorem Accounted.found {strategy : σ} (accounted : tenancy.Accounted)
    (told : strategy ∈ tenancy.toldBy none) : tenancy.duty.found? = some (some strategy) := by
  rw [accounted.connection] at told
  cases duty : tenancy.duty with
  | done found =>
      rw [duty] at told
      exact congrArg some (Option.mem_toList.mp told)
  | _ => simp [duty, Duty.told?] at told

structure Exclusive (steps : List (Step σ)) : Prop where
  occupied : (∃ strategy, (run steps).handoff.strategy = some strategy) ↔
    ∃! caller, ∃ strategy, (run steps).Attached caller strategy
  alone : ∀ {caller other strategy rival}, (run steps).Attached caller strategy →
    (run steps).Attached other rival → caller = other
  -- Whoever is attached finds its own strategy in the place when it leaves.
  own : ∀ {caller strategy}, (run steps).Attached caller strategy →
    (run steps).handoff.strategy = some strategy ∧
    (run steps).handoff.unpublish.1 = some strategy ∧
    (run (steps ++ [.unpublish caller])).handoff.strategy = none
  waiting : (run steps).handoff.wait = .ended ↔
    (∀ caller strategy, ¬(run steps).Attached caller strategy) ∧
      (run steps).handoff.sessionEnding = true
  once : ∀ {caller : Nat} {strategy stage}, (run steps).callers[caller]? = some (strategy, stage) →
    (run steps).toldBy (some caller) = if stage = .told then [strategy] else []
  stranger : ∀ {caller : Nat}, (run steps).callers[caller]? = none →
    (run steps).toldBy (some caller) = []
  last : ((run steps).toldBy none).length ≤ 1
  -- The connection tells the strategy that is attached when it looks.
  found : ∀ strategy ∈ (run steps).toldBy none, ∃ earlier later caller,
    steps = earlier ++ .look :: later ∧
      (run earlier).Attached caller strategy

/-- One strategy is attached at a time, whatever its callers and the connection do. -/
theorem exclusive (steps : List (Step σ)) : Exclusive steps := by
  obtain ⟨owner, owned⟩ := owned_run steps
  have accounted := accounted_run steps
  constructor
  case alone => exact owned.alone
  case waiting => exact owned.wait_eq_ended_iff
  case occupied =>
    constructor
    · rintro ⟨strategy, held⟩
      obtain ⟨caller, attached⟩ := (owned.strategy_iff strategy).mp held
      exact ⟨caller, ⟨strategy, attached⟩, fun other ⟨_, rivals⟩ => owned.alone rivals attached⟩
    · rintro ⟨caller, ⟨strategy, attached⟩, _⟩
      exact ⟨strategy, (owned.strategy_iff strategy).mpr ⟨caller, attached⟩⟩
  case own =>
    intro caller strategy attached
    have held := (owned.strategy_iff strategy).mpr ⟨caller, attached⟩
    refine ⟨held, held, ?_⟩
    rw [run_concat, step, attached]
    rfl
  case once =>
    intro caller strategy stage known
    rw [accounted.callers, known]
    cases stage <;> rfl
  case stranger =>
    intro caller unknown
    rw [accounted.callers, unknown]
    rfl
  case last =>
    rw [accounted.connection]
    exact Option.length_toList_le
  case found =>
    intro strategy told
    obtain ⟨earlier, later, split, held⟩ := looked_run (accounted.found told)
    obtain ⟨_, ownedThen⟩ := owned_run earlier
    obtain ⟨caller, attached⟩ := (ownedThen.strategy_iff strategy).mp held
    exact ⟨earlier, later, caller, split, attached⟩

end Tenancy

end Debuggee
