import Debuggee.Debugger.Lifecycle

/-!
Attaching and detaching strategies. One strategy is attached at a time; who attaches another one
stands in line. The call that attaches returns when the client of the open session, if there is
one, has finished its configuration.
-/

namespace Debuggee.Debugger

def publishFirst (handoff : Handoff Strategy) :
    List (Strategy × AttachStage) → Handoff Strategy × List (Strategy × AttachStage)
  | [] => (handoff, [])
  | (strategy, .inLine) :: others =>
    match handoff.publish? strategy with
    | some handoff => (handoff, (strategy, .waiting) :: others)
    | none => (handoff, (strategy, .inLine) :: others)
  | attachment :: others =>
    let (handoff, others) := publishFirst handoff others
    (handoff, attachment :: others)

def enter (debugger : Debugger) (strategy : Strategy) : Debugger :=
  { debugger with attachments := debugger.attachments ++ [(strategy, AttachStage.inLine)] }

def takePlace (debugger : Debugger) : Debugger :=
  let (handoff, attachments) := publishFirst debugger.handoff debugger.attachments
  { debugger with handoff := handoff, attachments := attachments }

/-- Lets a call return that has the place, unless a client has yet to finish its configuration. -/
def release (debugger : Debugger) : Debugger :=
  { debugger with
    attachments :=
      debugger.attachments.map fun (strategy, stage) =>
        (strategy,
          if stage = AttachStage.waiting ∧ debugger.connection.isReleased then .returned
          else stage) }

def settle (debugger : Debugger) : Debugger :=
  debugger.takePlace.release

def attach (debugger : Debugger) (strategy : Strategy) : Debugger :=
  (debugger.enter strategy).settle

def stage? (debugger : Debugger) (name : String) : Option AttachStage :=
  (debugger.attachments.find? (·.1.name = name)).map (·.2)

def leave (debugger : Debugger) (name : String) : Debugger × List Effect :=
  ({ debugger with
      handoff := debugger.handoff.unpublish.2
      attachments := debugger.attachments.filter (·.1.name ≠ name) },
    [.ended name])

/-- Detaches the strategy of this name; who stands in line may go on. -/
def detach (debugger : Debugger) (name : String) : Debugger × List Effect :=
  let (left, effects) := debugger.leave name
  (left.settle, effects)

end Debuggee.Debugger
