import Debuggee.Proofs.Debugger.Phases

/-!
What others are told over a history: who starts a debugger hears of one address or one error, and
sessions are opened and closed in turn.
-/

namespace Debuggee

inductive Boundary where
  | opening
  | closing
  deriving DecidableEq

def Effect.boundary? : Effect → Option Boundary
  | .sessionOpened => some .opening
  | .sessionClosed _ => some .closing
  | _ => none

def Effect.address? : Effect → Option (Except TransportError Address)
  | .address outcome => some outcome
  | _ => none

def Effect.ended? : Effect → Option String
  | .ended name => some name
  | _ => none

def boundaries (effects : List Effect) : List Boundary :=
  effects.filterMap Effect.boundary?

def addresses (effects : List Effect) : List (Except TransportError Address) :=
  effects.filterMap Effect.address?

def endings (effects : List Effect) : List String :=
  effects.filterMap Effect.ended?

theorem boundaries_append (effects later : List Effect) :
    boundaries (effects ++ later) = boundaries effects ++ boundaries later :=
  List.filterMap_append

theorem addresses_append (effects later : List Effect) :
    addresses (effects ++ later) = addresses effects ++ addresses later :=
  List.filterMap_append

theorem boundaries_of_silent {effects : List Effect}
    (silent : ∀ effect ∈ effects, effect.isOfConnection = false) : boundaries effects = [] := by
  apply List.filterMap_eq_nil_iff.mpr
  intro effect member
  have foreign := silent effect member
  cases effect with
  | sessionOpened => contradiction
  | sessionClosed dropped => contradiction
  | _ => rfl

theorem addresses_of_silent {effects : List Effect}
    (silent : ∀ effect ∈ effects, effect.isOfConnection = false) : addresses effects = [] := by
  apply List.filterMap_eq_nil_iff.mpr
  intro effect member
  have foreign := silent effect member
  cases effect with
  | address outcome => contradiction
  | _ => rfl

def Phase.isAddressed : Phase → Bool
  | .notStarted => false
  | .binding => false
  | _ => true

/-- How many sessions can still open where one client is dialled. -/
def Phase.chances : Phase → Nat
  | .notStarted => 1
  | .dialling => 1
  | _ => 0

namespace Debugger

def Action.stops : Action → Bool
  | .befall occurrence => occurrence.stops
  | _ => false

def Action.started? : Action → Option StartOptions
  | .start options => some options
  | _ => none

def Action.bound? : Action → Option (Except TransportError Address)
  | .befall (.bound outcome) => some outcome
  | _ => none

def promised : List Action → List (Except TransportError Address)
  | [] => []
  | action :: actions =>
    match action.started? with
    | none => promised actions
    | some options =>
      match options.mode with
      | .connect => [.ok (Address.nominal options.host options.port)]
      | .listen => (actions.findSome? Action.bound?).toList

def attachedName (debugger : Debugger) : Option String :=
  debugger.handoff.strategy.map (·.name)

variable {before after debugger : Debugger} {action : Action} {effects : List Effect}
  {occurrence : Occurrence}

theorem silent_finish (debugger : Debugger) :
    ∀ effect ∈ debugger.finish.2, effect.isOfConnection = false := by
  unfold finish
  cases debugger.handoff.strategy with
  | none => simp
  | some strategy => simp [Effect.isOfConnection]

theorem endings_finish (debugger : Debugger) :
    endings debugger.finish.2 = debugger.attachedName.toList := by
  unfold finish attachedName
  cases debugger.handoff.strategy with
  | none => rfl
  | some strategy => rfl

theorem Advance.addressed (advance : Advance before occurrence after effects) :
    (after.phase.isAddressed = before.phase.isAddressed ∧ addresses effects = []) ∨
      (before.phase.isAddressed = false ∧ after.phase.isAddressed = true ∧
        ∃ outcome, addresses effects = [outcome]) := by
  have quiet := addresses_of_silent before.silent_finish
  cases advance with
  | passed _ => exact Or.inl ⟨rfl, rfl⟩
  | cancelled => exact Or.inl ⟨rfl, rfl⟩
  | bound binding => exact Or.inr ⟨by rw [binding]; rfl, rfl, _, rfl⟩
  | unbound binding =>
      refine Or.inr ⟨by rw [binding]; rfl, rfl, _, congrArg (List.cons _) quiet⟩
  | @opened mode _ waiting _ =>
      refine Or.inl ⟨?_, rfl⟩
      rw [waiting]
      cases mode <;> rfl
  | closed serving => exact Or.inl ⟨by rw [serving]; rfl, rfl⟩
  | resumed listening _ =>
      refine Or.inl ⟨?_, rfl⟩
      rcases listening with same | same <;> simp [same, Phase.isAddressed]
  | finished last _ =>
      refine Or.inl ⟨?_, quiet⟩
      rcases last with same | same | ⟨same | same, _⟩ <;> rw [same] <;> rfl

theorem Move.addressed (sound : before.Sound) (move : Move before action after effects) :
    (after.phase.isAddressed = before.phase.isAddressed ∧ addresses effects = []) ∨
      (before.phase.isAddressed = false ∧ after.phase.isAddressed = true ∧
        ∃ outcome, addresses effects = [outcome]) := by
  cases move with
  | refused _ => exact Or.inl ⟨rfl, rfl⟩
  | bind unknown _ => exact Or.inl ⟨by rw [sound.notStarted unknown]; rfl, rfl⟩
  | dial unknown _ => exact Or.inr ⟨by rw [sound.notStarted unknown]; rfl, rfl, _, rfl⟩
  | advance advance => exact advance.addressed
  | aside _ aside =>
      exact Or.inl ⟨congrArg Phase.isAddressed aside.phase, addresses_of_silent aside.silent⟩

-- The phase counts the addresses: a step that tells one leads to a phase that knows one.
theorem addresses_length (sound : debugger.Sound) (actions : List Action) :
    (addresses (debugger.effects actions)).length + debugger.phase.isAddressed.toNat =
      (debugger.after actions).phase.isAddressed.toNat := by
  induction actions using List.reverseRecOn with
  | nil => simp [effects, after, addresses]
  | append_singleton actions action ih =>
      have move := move_perform (debugger.after actions) action
      rw [effects_concat, addresses_append, List.length_append, after_concat]
      rcases move.addressed (holds_after Sound.move sound actions) with
        ⟨same, nothing⟩ | ⟨unaddressed, addressed, outcome, one⟩
      · rw [nothing, same, ← ih]
        simp
      · rw [unaddressed] at ih
        rw [one, addressed]
        simp only [Bool.toNat_false, Bool.toNat_true, List.length_singleton] at ih ⊢
        omega

theorem addresses_of_addressed (sound : debugger.Sound)
    (addressed : debugger.phase.isAddressed = true) (actions : List Action) :
    addresses (debugger.effects actions) = [] := by
  have length := addresses_length sound actions
  have most := Bool.toNat_le (debugger.after actions).phase.isAddressed
  rw [addressed, Bool.toNat_true] at length
  apply List.length_eq_zero_iff.mp
  omega

theorem Move.binding (sound : before.Sound) (binding : before.phase = .binding)
    (move : Move before action after effects) :
    (∃ outcome, action.bound? = some outcome ∧ addresses effects = [outcome] ∧
        after.phase.isAddressed = true) ∨
      (action.bound? = none ∧ addresses effects = [] ∧ after.phase = .binding) := by
  cases move with
  | refused _ => exact Or.inr ⟨rfl, rfl, binding⟩
  | bind unknown _ =>
      rw [sound.notStarted unknown] at binding
      contradiction
  | dial unknown _ =>
      rw [sound.notStarted unknown] at binding
      contradiction
  | aside isAside aside =>
      refine Or.inr ⟨?_, addresses_of_silent aside.silent, aside.phase.trans binding⟩
      cases action with
      | befall occurrence => contradiction
      | _ => rfl
  | @advance occurrence _ _ advance =>
      cases advance with
      | passed unbound =>
          refine Or.inr ⟨?_, rfl, binding⟩
          cases occurrence with
          | bound outcome => exact absurd rfl (unbound binding outcome)
          | _ => rfl
      | cancelled => exact Or.inr ⟨rfl, rfl, binding⟩
      | bound _ => exact Or.inl ⟨_, rfl, rfl, rfl⟩
      | unbound _ =>
          have quiet := addresses_of_silent before.silent_finish
          exact Or.inl ⟨_, rfl, congrArg (List.cons _) quiet, rfl⟩
      | @opened mode _ waiting _ =>
          rw [binding] at waiting
          cases mode <;> contradiction
      | closed serving =>
          rw [binding] at serving
          contradiction
      | resumed listening _ => simp [binding] at listening
      | finished last _ => simp [binding, IsLast] at last

theorem addresses_of_binding (sound : debugger.Sound) (binding : debugger.phase = .binding)
    (actions : List Action) :
    addresses (debugger.effects actions) = (actions.findSome? Action.bound?).toList := by
  induction actions generalizing debugger with
  | nil => rfl
  | cons action actions ih =>
      have move := move_perform debugger action
      rw [effects, addresses_append, List.findSome?_cons]
      rcases move.binding sound binding with
        ⟨outcome, bound, told, addressed⟩ | ⟨unbound, told, still⟩
      · rw [bound, told, addresses_of_addressed (sound.move move) addressed]
        rfl
      · rw [unbound, told, ih (sound.move move) still]
        rfl

theorem Move.unknown (sound : before.Sound) (unknown : before.options = none)
    (move : Move before action after effects) :
    action.started? ≠ none ∨
      (action.started? = none ∧ addresses effects = [] ∧ after.options = none) := by
  have begins := sound.notStarted unknown
  cases move with
  | refused _ => exact Or.inl (by simp [Action.started?])
  | bind _ _ => exact Or.inl (by simp [Action.started?])
  | dial _ _ => exact Or.inl (by simp [Action.started?])
  | aside isAside aside =>
      refine Or.inr ⟨?_, addresses_of_silent aside.silent, aside.options.trans unknown⟩
      cases action with
      | start options => contradiction
      | _ => rfl
  | advance advance =>
      refine Or.inr ⟨rfl, ?_, advance.options.trans unknown⟩
      rcases advance.addressed with ⟨_, nothing⟩ | ⟨_, addressed, _⟩
      · exact nothing
      · have fits := advance.fits sound.fits
        rw [mode?, unknown] at fits
        rw [fits.notStarted] at addressed
        contradiction

/-- Who starts the debugger is told what was promised, in the order and number of the promise. -/
theorem addresses_of_unknown (sound : debugger.Sound) (unknown : debugger.options = none)
    (actions : List Action) : addresses (debugger.effects actions) = promised actions := by
  induction actions generalizing debugger with
  | nil => rfl
  | cons action actions ih =>
      have move := move_perform debugger action
      have later := sound.move move
      rw [effects, addresses_append, promised]
      rcases move.unknown sound unknown with started | ⟨other, told, still⟩
      · cases action with
        | start options =>
            generalize debugger.perform (.start options) = result at move later ⊢
            obtain ⟨after, effects⟩ := result
            cases move with
            | refused known => contradiction
            | bind _ listens =>
                rw [addresses_of_binding later rfl]
                simp only [Action.started?, listens]
                rfl
            | dial _ connects =>
                rw [addresses_of_addressed later rfl]
                simp only [Action.started?, connects]
                rfl
            | aside isAside _ => contradiction
        | _ => contradiction
      · rw [told, other, ih later still]
        rfl

theorem Advance.turns (advance : Advance before occurrence after effects) :
    (after.phase.isOpen = before.phase.isOpen ∧ boundaries effects = []) ∨
      (before.phase.isOpen = false ∧ after.phase.isOpen = true ∧
        boundaries effects = [.opening]) ∨
      (before.phase.isOpen = true ∧ after.phase.isOpen = false ∧
        boundaries effects = [.closing]) := by
  have quiet := boundaries_of_silent before.silent_finish
  cases advance with
  | passed _ => exact Or.inl ⟨rfl, rfl⟩
  | cancelled => exact Or.inl ⟨rfl, rfl⟩
  | bound binding => exact Or.inl ⟨by rw [binding]; rfl, rfl⟩
  | unbound binding => exact Or.inl ⟨by rw [binding]; rfl, quiet⟩
  | opened waiting _ => exact Or.inr (Or.inl ⟨by simp [waiting], rfl, rfl⟩)
  | closed serving => exact Or.inr (Or.inr ⟨by rw [serving]; rfl, rfl, rfl⟩)
  | resumed listening _ =>
      refine Or.inl ⟨?_, rfl⟩
      rcases listening with same | same <;> simp [same, Phase.isOpen]
  | finished last _ =>
      refine Or.inl ⟨?_, quiet⟩
      rw [last.unfinished.1]
      rfl

theorem Move.turns (sound : before.Sound) (move : Move before action after effects) :
    (after.phase.isOpen = before.phase.isOpen ∧ boundaries effects = []) ∨
      (before.phase.isOpen = false ∧ after.phase.isOpen = true ∧
        boundaries effects = [.opening]) ∨
      (before.phase.isOpen = true ∧ after.phase.isOpen = false ∧
        boundaries effects = [.closing]) := by
  cases move with
  | refused _ => exact Or.inl ⟨rfl, rfl⟩
  | bind unknown _ => exact Or.inl ⟨by rw [sound.notStarted unknown]; rfl, rfl⟩
  | dial unknown _ => exact Or.inl ⟨by rw [sound.notStarted unknown]; rfl, rfl⟩
  | advance advance => exact advance.turns
  | aside _ aside =>
      exact Or.inl ⟨congrArg Phase.isOpen aside.phase, boundaries_of_silent aside.silent⟩

/-- Sessions follow one another: none opens before the one in front of it has ended. -/
theorem boundaries_alternate (sound : debugger.Sound) (quiet : debugger.phase.isOpen = false)
    (actions : List Action) :
    ∃ count, boundaries (debugger.effects actions) =
      (List.replicate count [Boundary.opening, Boundary.closing]).flatten ++
        if (debugger.after actions).phase.isOpen then [.opening] else [] := by
  induction actions using List.reverseRecOn with
  | nil => exact ⟨0, by simp [effects, after, boundaries, quiet]⟩
  | append_singleton actions action ih =>
      obtain ⟨count, alternating⟩ := ih
      have move := move_perform (debugger.after actions) action
      rw [effects_concat, boundaries_append, after_concat, alternating]
      rcases move.turns (holds_after Sound.move sound actions) with
        ⟨same, nothing⟩ | ⟨closed, opens, opening⟩ | ⟨opened, closes, closing⟩
      · refine ⟨count, ?_⟩
        rw [same, nothing, List.append_nil]
      · refine ⟨count, ?_⟩
        simp [closed, opens, opening]
      · refine ⟨count + 1, ?_⟩
        simp [opened, closes, closing, List.replicate_succ']

theorem Advance.sessionEnding (advance : Advance before occurrence after effects) :
    (after.handoff.sessionEnding = before.handoff.sessionEnding ∧
        after.phase.isOpen = before.phase.isOpen ∧
        (after.phase = .finished ↔ before.phase = .finished)) ∨
      after.phase.isOpen = true ∨
      (before.phase.isOpen = true ∧ ∃ mode, after.phase = .leaving mode) ∨
      after.phase = .finished := by
  cases advance with
  | passed _ => exact Or.inl ⟨rfl, rfl, Iff.rfl⟩
  | cancelled => exact Or.inl ⟨rfl, rfl, Iff.rfl⟩
  | @bound options address binding =>
      obtain ⟨_, _, same⟩ := before.advertise_eq options address
      rw [same]
      exact Or.inl ⟨rfl, by rw [binding]; rfl, by simp [binding]⟩
  | unbound _ => exact Or.inr (Or.inr (Or.inr rfl))
  | opened _ _ => exact Or.inr (Or.inl rfl)
  | closed serving => exact Or.inr (Or.inr (Or.inl ⟨by rw [serving]; rfl, _, rfl⟩))
  | resumed listening _ =>
      refine Or.inl ⟨rfl, ?_, ?_⟩
      · rcases listening with same | same <;> simp [same, Phase.isOpen]
      · rcases listening with same | same <;> simp [same]
  | finished _ _ => exact Or.inr (Or.inr (Or.inr rfl))

theorem Move.sessionEnding (sound : before.Sound) (move : Move before action after effects) :
    (after.handoff.sessionEnding = before.handoff.sessionEnding ∧
        after.phase.isOpen = before.phase.isOpen ∧
        (after.phase = .finished ↔ before.phase = .finished)) ∨
      after.phase.isOpen = true ∨
      (before.phase.isOpen = true ∧ ∃ mode, after.phase = .leaving mode) ∨
      after.phase = .finished := by
  cases move with
  | refused _ => exact Or.inl ⟨rfl, rfl, Iff.rfl⟩
  | bind unknown _ =>
      have begins := sound.notStarted unknown
      exact Or.inl ⟨rfl, by rw [begins]; rfl, by simp [begins]⟩
  | dial unknown _ =>
      have begins := sound.notStarted unknown
      exact Or.inl ⟨rfl, by rw [begins]; rfl, by simp [begins]⟩
  | advance advance => exact advance.sessionEnding
  | aside _ aside =>
      exact Or.inl ⟨aside.sessionEnding, congrArg Phase.isOpen aside.phase, by rw [aside.phase]⟩

def HasServed (first : Debugger) (actions : List Action) : Prop :=
  ∃ earlier, earlier <+: actions ∧ (first.after earlier).phase.isOpen = true

theorem HasServed.now {first : Debugger} {actions : List Action}
    (serving : (first.after actions).phase.isOpen = true) : first.HasServed actions :=
  ⟨actions, List.prefix_rfl, serving⟩

theorem hasServed_concat_iff (first : Debugger) (actions : List Action) (action : Action) :
    first.HasServed (actions ++ [action]) ↔
      (first.after (actions ++ [action])).phase.isOpen = true ∨ first.HasServed actions := by
  constructor
  · rintro ⟨earlier, within, serving⟩
    rcases List.prefix_concat_iff.mp within with same | before
    · exact Or.inl (same ▸ serving)
    · exact Or.inr ⟨earlier, before, serving⟩
  · rintro (serving | ⟨earlier, before, serving⟩)
    · exact .now serving
    · exact ⟨earlier, before.trans (List.prefix_append actions [action]), serving⟩

/-- Requests stop waiting when a session ends, and wait again from the next opening on. -/
theorem sessionEnding_iff (sound : debugger.Sound) (unfinished : debugger.phase ≠ .finished)
    (waits : debugger.handoff.sessionEnding = false) (actions : List Action) :
    (debugger.after actions).handoff.sessionEnding = true ↔
      (debugger.after actions).phase.isOpen = false ∧
        ((debugger.after actions).phase = .finished ∨ debugger.HasServed actions) := by
  induction actions using List.reverseRecOn with
  | nil =>
      have begins : debugger.after [] = debugger := rfl
      rw [begins, waits]
      refine iff_of_false Bool.false_ne_true ?_
      rintro ⟨quiet, finished | ⟨earlier, before, serving⟩⟩
      · exact unfinished finished
      · rw [List.prefix_nil.mp before, begins, quiet] at serving
        contradiction
  | append_singleton actions action ih =>
      have earlier := holds_after Sound.move sound actions
      have move := move_perform (debugger.after actions) action
      have governs := (earlier.move move).governs
      rw [hasServed_concat_iff, after_concat]
      rcases move.sessionEnding earlier with
        ⟨same, still, ends⟩ | opened | ⟨serving, mode, leaving⟩ | finished
      · rw [same, still, ends, ih]
        -- A session that is open now was open before.
        have known : (debugger.after actions).phase.isOpen = true → debugger.HasServed actions :=
          HasServed.now
        tauto
      · simp [governs.begun opened, opened]
      · have served : debugger.HasServed actions := .now serving
        simp [governs.left mode leaving, leaving, served, Phase.isOpen]
      · simp [(governs.finished finished).2, finished, Phase.isOpen]

variable {mode : Option SocketMode}

theorem Advance.chances (advance : Advance before occurrence after effects)
    (fits : after.phase.Fits mode) (dials : mode ≠ some .listen) :
    (boundaries effects).count .opening + after.phase.chances ≤ before.phase.chances := by
  have quiet := boundaries_of_silent before.silent_finish
  cases advance with
  | passed _ => simp [boundaries]
  | cancelled => simp [boundaries]
  | bound _ => exact absurd fits dials
  | @unbound error _ =>
      have nothing : boundaries (.address (.error error) :: before.finish.2) = [] := quiet
      rw [nothing]
      exact Nat.zero_le _
  | @opened served _ waiting _ =>
      have same : mode = some served := fits
      cases served with
      | listen => contradiction
      | connect =>
          rw [waiting]
          exact Nat.le_refl 1
  | closed _ => exact Nat.zero_le _
  | resumed _ _ => exact absurd fits dials
  | finished _ _ =>
      rw [quiet]
      exact Nat.zero_le _

theorem Move.chances (sound : before.Sound) (move : Move before action after effects)
    (dials : after.mode? ≠ some .listen) :
    (boundaries effects).count .opening + after.phase.chances ≤ before.phase.chances := by
  have fits := (sound.move move).fits
  cases move with
  | refused _ => simp [boundaries]
  | bind _ _ => exact absurd fits dials
  | dial unknown _ =>
      rw [sound.notStarted unknown]
      exact Nat.le_refl 1
  | advance advance => exact advance.chances fits dials
  | aside _ aside =>
      rw [boundaries_of_silent aside.silent, aside.phase]
      simp

theorem single_session (sound : debugger.Sound) (actions : List Action)
    (dials : (debugger.after actions).mode? ≠ some .listen) :
    (boundaries (debugger.effects actions)).count .opening +
      (debugger.after actions).phase.chances ≤ debugger.phase.chances := by
  induction actions using List.reverseRecOn with
  | nil => simp [effects, after, boundaries]
  | append_singleton actions action ih =>
      have move := move_perform (debugger.after actions) action
      rw [after_concat] at dials ⊢
      have some := move.chances (holds_after Sound.move sound actions) dials
      have others := ih fun listens => dials (move.mode listens)
      rw [effects_concat, boundaries_append, List.count_append]
      omega

end Debugger

end Debuggee
