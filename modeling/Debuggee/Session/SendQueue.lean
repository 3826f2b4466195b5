/-!
The queue of messages to the client. It takes messages only while a session is active, and one
writer hands them out in order. Each activation opens a window: what was queued in an earlier
window is never handed out in a later one.
-/

namespace Debuggee

structure SendQueue (α : Type) where
  active : Bool := false
  closing : Bool := false
  /-- Whether a message has been handed out and not been acknowledged. -/
  inFlight : Bool := false
  pending : List α := []
  deriving DecidableEq, Repr

inductive SendQueue.Next (α : Type) where
  | message (message : α)
  | closed
  | cancelled
  | waiting
  deriving DecidableEq, Repr

namespace SendQueue

def activate (_ : SendQueue α) : SendQueue α :=
  { active := true }

/-- Closes the window; returns how many messages it still held. -/
def deactivate (queue : SendQueue α) : Nat × SendQueue α :=
  (queue.pending.length, { queue with active := false, inFlight := false, pending := [] })

def push (queue : SendQueue α) (message : α) : Bool × SendQueue α :=
  if queue.active then (true, { queue with pending := queue.pending ++ [message] })
  else (false, queue)

def close (queue : SendQueue α) : SendQueue α :=
  { queue with closing := true }

def next (queue : SendQueue α) (cancelled : Bool) : Next α × SendQueue α :=
  if cancelled then (.cancelled, queue)
  else
    match queue.pending with
    | message :: pending => (.message message, { queue with inFlight := true, pending := pending })
    | [] => (if queue.closing || !queue.active then .closed else .waiting, queue)

def messageWritten (queue : SendQueue α) : SendQueue α :=
  { queue with inFlight := false }

/-- Whether an active session has nothing left to write; without a session there is nothing. -/
def isDrained (queue : SendQueue α) : Bool :=
  !(queue.active && (queue.inFlight || !queue.pending.isEmpty))

end SendQueue

end Debuggee
