import Debuggee.Protocol.Reply
import Debuggee.Protocol.Request

/-!
Strategies. A strategy stands for the live run: it answers the requests that need its state.
-/

namespace Debuggee

inductive Outcome (α : Type) where
  | answer (body : α)
  /-- It failed, for a cause that has causes of its own; the outermost one comes first. -/
  | failed (causes : List String)
  | panicked (message : Option String)

def Outcome.map (change : α → β) : Outcome α → Outcome β
  | .answer body => .answer (change body)
  | .failed causes => .failed causes
  | .panicked message => .panicked message

structure Reaction (α : Type) where
  events : List Event := []
  outcome : Outcome α

def Reaction.map (change : α → β) (reaction : Reaction α) : Reaction β where
  events := reaction.events
  outcome := reaction.outcome.map change

structure Strategy where
  name : String
  evaluate : EvaluateArguments → Reaction EvaluateAnswer
  continueRun : ContinueArguments → Reaction ContinueAnswer
  scopes : ScopesArguments → Reaction ScopesAnswer
  stackTrace : StackTraceArguments → Reaction StackTraceAnswer
  threads : Reaction ThreadsAnswer
  «variables» : VariablesArguments → Reaction VariablesAnswer
  setVariable : SetVariableArguments → Reaction SetVariableAnswer
  stepIn : StepInArguments → Reaction Unit
  stepOut : StepOutArguments → Reaction Unit
  next : NextArguments → Reaction Unit

namespace Strategy

def bodyOf [HasLayout α] (reaction : Reaction α) : Option (Reaction (Option Json)) :=
  some (reaction.map fun body => some (toJson body).sorted)

def withoutBody (reaction : Reaction Unit) : Option (Reaction (Option Json)) :=
  some (reaction.map fun _ => none)

/--
What the strategy does about a request, with the body of its answer if it has one; none for the
two requests that the debuggee answers itself.
-/
def react? (strategy : Strategy) : Command → Option (Reaction (Option Json))
  | .configurationDone => none
  | .setBreakpoints _ => none
  | .evaluate arguments => bodyOf (strategy.evaluate arguments)
  | .continueRun arguments => bodyOf (strategy.continueRun arguments)
  | .scopes arguments => bodyOf (strategy.scopes arguments)
  | .stackTrace arguments => bodyOf (strategy.stackTrace arguments)
  | .threads => bodyOf strategy.threads
  | .variables arguments => bodyOf (strategy.variables arguments)
  | .setVariable arguments => bodyOf (strategy.setVariable arguments)
  | .stepIn arguments => withoutBody (strategy.stepIn arguments)
  | .stepOut arguments => withoutBody (strategy.stepOut arguments)
  | .next arguments => withoutBody (strategy.next arguments)

end Strategy

end Debuggee
