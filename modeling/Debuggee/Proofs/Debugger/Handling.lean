import Debuggee.Debugger.Dispatch
import Mathlib

/-!
How a command is handled. Two commands are dealt with by the debugger itself. Each other one has a
method of the strategy, which is called with its arguments: what it sends is sent, and how it ends
is what the response tells.
-/

namespace Debuggee

def Command.needsStrategy : Command → Bool
  | .configurationDone => false
  | .setBreakpoints _ => false
  | _ => true

def writtenBody [HasLayout α] (answer : α) : Option Json :=
  some (toJson answer).sorted

namespace Strategy

def helpless (name : String) : Strategy where
  name := name
  evaluate := fun _ => ⟨[], .failed []⟩
  continueRun := fun _ => ⟨[], .failed []⟩
  scopes := fun _ => ⟨[], .failed []⟩
  stackTrace := fun _ => ⟨[], .failed []⟩
  threads := ⟨[], .failed []⟩
  «variables» := fun _ => ⟨[], .failed []⟩
  setVariable := fun _ => ⟨[], .failed []⟩
  stepIn := fun _ => ⟨[], .failed []⟩
  stepOut := fun _ => ⟨[], .failed []⟩
  next := fun _ => ⟨[], .failed []⟩

/-- The method that a command calls: what it does, and how its answer becomes a body. -/
inductive Calls (strategy : Strategy) :
    Command → {α : Type} → Reaction α → (α → Option Json) → Prop where
  | evaluate (arguments : EvaluateArguments) :
      Calls strategy (.evaluate arguments) (strategy.evaluate arguments) writtenBody
  | continueRun (arguments : ContinueArguments) :
      Calls strategy (.continueRun arguments) (strategy.continueRun arguments) writtenBody
  | scopes (arguments : ScopesArguments) :
      Calls strategy (.scopes arguments) (strategy.scopes arguments) writtenBody
  | stackTrace (arguments : StackTraceArguments) :
      Calls strategy (.stackTrace arguments) (strategy.stackTrace arguments) writtenBody
  | threads : Calls strategy .threads strategy.threads writtenBody
  | «variables» (arguments : VariablesArguments) :
      Calls strategy (.variables arguments) (strategy.variables arguments) writtenBody
  | setVariable (arguments : SetVariableArguments) :
      Calls strategy (.setVariable arguments) (strategy.setVariable arguments) writtenBody
  | stepIn (arguments : StepInArguments) :
      Calls strategy (.stepIn arguments) (strategy.stepIn arguments) fun _ => none
  | stepOut (arguments : StepOutArguments) :
      Calls strategy (.stepOut arguments) (strategy.stepOut arguments) fun _ => none
  | next (arguments : NextArguments) :
      Calls strategy (.next arguments) (strategy.next arguments) fun _ => none

def IsSilent (strategy : Strategy) : Prop :=
  ∀ {α : Type} (command : Command) (reaction : Reaction α) (body : α → Option Json),
    strategy.Calls command reaction body → reaction.events = []

section Calls

variable {strategy : Strategy} {command : Command} {α : Type} {reaction : Reaction α}
variable {body : α → Option Json}

theorem Calls.needsStrategy (calls : strategy.Calls command reaction body) :
    command.needsStrategy = true := by
  cases calls <;> rfl

theorem Calls.react? (calls : strategy.Calls command reaction body) :
    strategy.react? command = some (reaction.map body) := by
  cases calls <;> rfl

theorem exists_calls (strategy : Strategy) (needed : command.needsStrategy = true) :
    ∃ (α : Type) (reaction : Reaction α) (body : α → Option Json),
      strategy.Calls command reaction body := by
  cases command with
  | configurationDone => contradiction
  | setBreakpoints arguments => contradiction
  | evaluate arguments => exact ⟨_, _, _, .evaluate arguments⟩
  | continueRun arguments => exact ⟨_, _, _, .continueRun arguments⟩
  | scopes arguments => exact ⟨_, _, _, .scopes arguments⟩
  | stackTrace arguments => exact ⟨_, _, _, .stackTrace arguments⟩
  | threads => exact ⟨_, _, _, .threads⟩
  | «variables» arguments => exact ⟨_, _, _, .variables arguments⟩
  | setVariable arguments => exact ⟨_, _, _, .setVariable arguments⟩
  | stepIn arguments => exact ⟨_, _, _, .stepIn arguments⟩
  | stepOut arguments => exact ⟨_, _, _, .stepOut arguments⟩
  | next arguments => exact ⟨_, _, _, .next arguments⟩

end Calls

end Strategy

namespace Handoff

/-- What is sent for the sake of a command, and how the command ends. -/
inductive Handles (handoff : Handoff Strategy) :
    Command → List Event → Outcome (Option Json) → Prop where
  | configurationDone : Handles handoff .configurationDone [] (.answer none)
  | setBreakpoints (arguments : SetBreakpointsArguments) (reports : List Breakpoint) :
      Handles handoff (.setBreakpoints arguments) []
        (.answer (writtenBody (⟨reports⟩ : SetBreakpointsAnswer)))
  | vacant {command : Command} (needed : command.needsStrategy = true)
      (vacant : handoff.strategy = none) :
      Handles handoff command [] (.failed ["debug session ended before Ansible attached"])
  | answered {strategy : Strategy} {command : Command} {α : Type} {reaction : Reaction α}
      {body : α → Option Json} {answer : α} (attached : handoff.strategy = some strategy)
      (calls : strategy.Calls command reaction body) (ends : reaction.outcome = .answer answer) :
      Handles handoff command reaction.events (.answer (body answer))
  | failed {strategy : Strategy} {command : Command} {α : Type} {reaction : Reaction α}
      {body : α → Option Json} {causes : List String} (attached : handoff.strategy = some strategy)
      (calls : strategy.Calls command reaction body) (ends : reaction.outcome = .failed causes) :
      Handles handoff command reaction.events (.failed causes)
  | panicked {strategy : Strategy} {command : Command} {α : Type} {reaction : Reaction α}
      {body : α → Option Json} {message : Option String}
      (attached : handoff.strategy = some strategy)
      (calls : strategy.Calls command reaction body)
      (ends : reaction.outcome = .panicked message) :
      Handles handoff command reaction.events (.panicked message)

def Serves (handoff : Handoff Strategy) (command : Command) : Prop :=
  ∃ events body, handoff.Handles command events (.answer body)

variable {handoff : Handoff Strategy} {command : Command} {events : List Event}
variable {outcome : Outcome (Option Json)}

theorem serves_of_own (own : command.needsStrategy = false) : handoff.Serves command := by
  cases command with
  | configurationDone => exact ⟨[], _, .configurationDone⟩
  | setBreakpoints arguments => exact ⟨[], _, .setBreakpoints arguments []⟩
  | _ => contradiction

theorem handles_of_calls {strategy : Strategy} {α : Type} {reaction : Reaction α}
    {body : α → Option Json} (attached : handoff.strategy = some strategy)
    (calls : strategy.Calls command reaction body) :
    handoff.Handles command reaction.events (reaction.outcome.map body) := by
  cases ends : reaction.outcome with
  | answer answer => exact .answered attached calls ends
  | failed causes => exact .failed attached calls ends
  | panicked message => exact .panicked attached calls ends

theorem Handles.react? {strategy : Strategy} (handles : handoff.Handles command events outcome)
    (needed : command.needsStrategy = true) (attached : handoff.strategy = some strategy) :
    strategy.react? command = some ⟨events, outcome⟩ := by
  have called {other : Strategy} {α : Type} {reaction : Reaction α} {body : α → Option Json}
      (found : handoff.strategy = some other) (calls : other.Calls command reaction body) :
      strategy.react? command = some ⟨reaction.events, reaction.outcome.map body⟩ := by
    rw [attached, Option.some.injEq] at found
    rw [found]
    exact calls.react?
  cases handles with
  | configurationDone => contradiction
  | setBreakpoints arguments reports => contradiction
  | vacant _ vacant =>
      rw [attached] at vacant
      contradiction
  | answered found calls ends =>
      rw [called found calls, ends]
      rfl
  | failed found calls ends =>
      rw [called found calls, ends]
      rfl
  | panicked found calls ends =>
      rw [called found calls, ends]
      rfl

theorem Handles.events_eq_nil (handles : handoff.Handles command events outcome)
    (silent : ∀ strategy, handoff.strategy = some strategy → strategy.IsSilent) :
    events = [] := by
  cases handles with
  | configurationDone => rfl
  | setBreakpoints arguments reports => rfl
  | vacant needed vacant => rfl
  | answered attached calls ends => exact silent _ attached _ _ _ calls
  | failed attached calls ends => exact silent _ attached _ _ _ calls
  | panicked attached calls ends => exact silent _ attached _ _ _ calls

theorem not_serves_of_vacant (needed : command.needsStrategy = true)
    (vacant : handoff.strategy = none) : ¬ handoff.Serves command := by
  rintro ⟨events, body, handles⟩
  cases handles with
  | configurationDone => contradiction
  | setBreakpoints arguments reports => contradiction
  | answered attached calls ends =>
      rw [vacant] at attached
      contradiction

theorem serves_iff_of_calls {strategy : Strategy} {α : Type} {reaction : Reaction α}
    {body : α → Option Json} (attached : handoff.strategy = some strategy)
    (calls : strategy.Calls command reaction body) :
    handoff.Serves command ↔ ∃ answer, reaction.outcome = .answer answer := by
  constructor
  · rintro ⟨events, written, handles⟩
    have reacts := handles.react? calls.needsStrategy attached
    rw [calls.react?, Option.some.injEq, Reaction.mk.injEq] at reacts
    have ended : reaction.outcome.map body = .answer written := reacts.2
    cases ends : reaction.outcome with
    | answer answer => exact ⟨answer, rfl⟩
    | failed causes =>
        rw [ends] at ended
        contradiction
    | panicked message =>
        rw [ends] at ended
        contradiction
  · rintro ⟨answer, ends⟩
    exact ⟨_, _, .answered attached calls ends⟩

theorem Handles.serves_iff (handles : handoff.Handles command events outcome) :
    handoff.Serves command ↔ ∃ body, outcome = .answer body := by
  cases handles with
  | configurationDone => exact iff_of_true (serves_of_own rfl) ⟨_, rfl⟩
  | setBreakpoints arguments reports => exact iff_of_true (serves_of_own rfl) ⟨_, rfl⟩
  | vacant needed vacant =>
      exact iff_of_false (not_serves_of_vacant needed vacant) (by simp)
  | answered attached calls ends =>
      exact iff_of_true ⟨_, _, .answered attached calls ends⟩ ⟨_, rfl⟩
  | failed attached calls ends => simp [serves_iff_of_calls attached calls, ends]
  | panicked attached calls ends => simp [serves_iff_of_calls attached calls, ends]

end Handoff

namespace Response

def Tells (response : Response) : Outcome (Option Json) → Prop
  | .answer body => response.success = true ∧ response.body = body ∧ response.message = none
  | .failed causes => response.success = false ∧ response.body = none ∧
      response.message = some (": ".intercalate causes)
  | .panicked message => response.success = false ∧ response.body = none ∧
      response.message = some ("panic: " ++ message.getD "<non-string panic payload>")

variable {response : Response} {outcome : Outcome (Option Json)}

theorem Tells.success_iff (tells : response.Tells outcome) :
    response.success = true ↔ ∃ body, outcome = .answer body := by
  cases outcome with
  | answer body => exact iff_of_true tells.1 ⟨body, rfl⟩
  | failed causes => simp [tells.1]
  | panicked message => simp [tells.1]

theorem Tells.of_failure (tells : response.Tells outcome) (failure : response.success = false) :
    response.message.isSome = true ∧ response.body = none := by
  cases outcome with
  | answer body =>
      rw [tells.1] at failure
      contradiction
  | failed causes => exact ⟨by rw [tells.2.2]; rfl, tells.2.1⟩
  | panicked message => exact ⟨by rw [tells.2.2]; rfl, tells.2.1⟩

end Response

namespace Debugger

theorem tells_responseTo (request : Request) (outcome : Outcome (Option Json)) :
    (responseTo request outcome).Tells outcome := by
  cases outcome <;> exact ⟨rfl, rfl, rfl⟩

theorem echo_responseTo (request : Request) (outcome : Outcome (Option Json)) :
    (responseTo request outcome).requestSeq = request.seq ∧
      (responseTo request outcome).command = request.command.name := by
  cases outcome <;> exact ⟨rfl, rfl⟩

end Debugger

end Debuggee
