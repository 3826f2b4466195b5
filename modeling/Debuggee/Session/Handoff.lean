/-!
The place of the attached strategy. There is room for one. Requests wait until it is taken or the
session ends.
-/

namespace Debuggee

structure Handoff (σ : Type) where
  strategy : Option σ := none
  /-- Whether requests no longer wait for a strategy. -/
  sessionEnding : Bool := false
  deriving DecidableEq, Repr

inductive Handoff.Waiting (σ : Type) where
  | found (strategy : σ)
  | ended
  | waiting
  deriving DecidableEq, Repr

namespace Handoff

def publish? (handoff : Handoff σ) (strategy : σ) : Option (Handoff σ) :=
  match handoff.strategy with
  | some _ => none
  | none => some { handoff with strategy := some strategy }

def unpublish (handoff : Handoff σ) : Option σ × Handoff σ :=
  (handoff.strategy, { handoff with strategy := none })

def wait (handoff : Handoff σ) : Waiting σ :=
  match handoff.strategy with
  | some strategy => .found strategy
  | none => if handoff.sessionEnding then .ended else .waiting

def beginSession (handoff : Handoff σ) : Handoff σ :=
  { handoff with sessionEnding := false }

def endSession (handoff : Handoff σ) : Handoff σ :=
  { handoff with sessionEnding := true }

end Handoff

end Debuggee
