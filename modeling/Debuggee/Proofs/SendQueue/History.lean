import Debuggee.Session.SendQueue
import Mathlib

/-!
Histories of a queue of messages: the calls that may be made on it, in any order, what each returns,
and what these exchanges say about the messages that were taken, handed out and acknowledged.
-/

namespace Debuggee.SendQueue

variable {α : Type}

inductive Call (α : Type) where
  | activate
  | deactivate
  | push (message : α)
  | close
  | next (cancelled : Bool)
  | messageWritten

inductive Answer (α : Type) where
  | nothing
  | dropped (count : Nat)
  | taken (accepted : Bool)
  | found (next : Next α)

abbrev Exchange (α : Type) := Call α × Answer α

def Call.isBoundary : Call α → Bool
  | .activate => true
  | .deactivate => true
  | _ => false

def perform (queue : SendQueue α) : Call α → SendQueue α × Answer α
  | .activate => (queue.activate, .nothing)
  | .deactivate => (queue.deactivate.2, .dropped queue.deactivate.1)
  | .push message => ((queue.push message).2, .taken (queue.push message).1)
  | .close => (queue.close, .nothing)
  | .next cancelled => ((queue.next cancelled).2, .found (queue.next cancelled).1)
  | .messageWritten => (queue.messageWritten, .nothing)

def run (queue : SendQueue α) (calls : List (Call α)) : SendQueue α :=
  calls.foldl (fun queue call => (queue.perform call).1) queue

def trace (queue : SendQueue α) : List (Call α) → List (Exchange α)
  | [] => []
  | call :: calls => (call, (queue.perform call).2) :: trace (queue.perform call).1 calls

def accepted? : Exchange α → Option α
  | (.push message, .taken true) => some message
  | _ => none

def handed? : Exchange α → Option α
  | (_, .found (.message message)) => some message
  | _ => none

def accepted (exchanges : List (Exchange α)) : List α :=
  exchanges.filterMap accepted?

def handed (exchanges : List (Exchange α)) : List α :=
  exchanges.filterMap handed?

structure Writer (α : Type) where
  held : Option α := none
  acknowledged : List α := []

def Writer.follow (writer : Writer α) : Exchange α → Writer α
  | (.messageWritten, _) => ⟨none, writer.acknowledged ++ writer.held.toList⟩
  | (_, .found (.message message)) => { writer with held := some message }
  | _ => writer

def Writer.after (exchanges : List (Exchange α)) : Writer α :=
  exchanges.foldl Writer.follow {}

/-- The writer asks for the next message only after it has acknowledged the last one. -/
def Orderly (calls : List (Call α)) : Prop :=
  ∀ earlier cancelled later, calls = earlier ++ .next cancelled :: later →
    (Writer.after (trace {} earlier)).held = none

theorem run_append (queue : SendQueue α) (calls later : List (Call α)) :
    queue.run (calls ++ later) = (queue.run calls).run later :=
  List.foldl_append

theorem trace_append (queue : SendQueue α) (calls later : List (Call α)) :
    queue.trace (calls ++ later) = queue.trace calls ++ (queue.run calls).trace later := by
  induction calls generalizing queue with
  | nil => rfl
  | cons call calls ih =>
      simp only [List.cons_append, trace, ih]
      rfl

theorem accepted_append (exchanges later : List (Exchange α)) :
    accepted (exchanges ++ later) = accepted exchanges ++ accepted later :=
  List.filterMap_append

theorem handed_append (exchanges later : List (Exchange α)) :
    handed (exchanges ++ later) = handed exchanges ++ handed later :=
  List.filterMap_append

theorem accepted_cons (exchange : Exchange α) (exchanges : List (Exchange α)) :
    accepted (exchange :: exchanges) = (accepted? exchange).toList ++ accepted exchanges := by
  cases taken : accepted? exchange <;> simp [accepted, taken]

theorem handed_cons (exchange : Exchange α) (exchanges : List (Exchange α)) :
    handed (exchange :: exchanges) = (handed? exchange).toList ++ handed exchanges := by
  cases given : handed? exchange <;> simp [handed, given]

theorem accepted_concat (exchanges : List (Exchange α)) (exchange : Exchange α) :
    accepted (exchanges ++ [exchange]) = accepted exchanges ++ (accepted? exchange).toList := by
  rw [accepted_append, accepted_cons]
  simp [accepted]

theorem handed_concat (exchanges : List (Exchange α)) (exchange : Exchange α) :
    handed (exchanges ++ [exchange]) = handed exchanges ++ (handed? exchange).toList := by
  rw [handed_append, handed_cons]
  simp [handed]

namespace Writer

theorem after_concat (exchanges : List (Exchange α)) (exchange : Exchange α) :
    after (exchanges ++ [exchange]) = (after exchanges).follow exchange := by
  simp [after, List.foldl_append]

theorem held_of_append {exchanges later : List (Exchange α)}
    (free : (after (exchanges ++ later)).held = none) : (after later).held = none := by
  induction later using List.reverseRecOn with
  | nil => rfl
  | append_singleton later exchange ih =>
      rw [← List.append_assoc, after_concat] at free
      rw [after_concat]
      obtain ⟨call, answer⟩ := exchange
      cases call with
      | messageWritten => rfl
      | _ =>
          cases answer with
          | found next =>
              cases next with
              | message message => simp [follow] at free
              | _ => exact ih free
          | _ => exact ih free

end Writer

theorem Orderly.of_append {calls later : List (Call α)} (orderly : Orderly (calls ++ later)) :
    Orderly calls := by
  intro earlier cancelled between same
  apply orderly earlier cancelled (between ++ later)
  rw [same, List.append_assoc, List.cons_append]

theorem Orderly.held_of_next {calls : List (Call α)} {cancelled : Bool}
    (orderly : Orderly (calls ++ [.next cancelled])) :
    (Writer.after (trace {} calls)).held = none :=
  orderly calls cancelled [] rfl

end Debuggee.SendQueue
