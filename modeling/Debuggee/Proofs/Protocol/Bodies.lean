import Debuggee.Proofs.Layout.ReadBack
import Debuggee.Protocol.Answers
import Debuggee.Protocol.Events

/-!
The bodies of answers and events, and the records in them, are read back as they were written: from
their text, from the data that a reader of the text holds, and from any other text of that data.
-/

namespace Debuggee

inductive Sent : {α : Type} → Layout α → Prop where
  | source : Sent Source.layout
  | breakpoint : Sent Breakpoint.layout
  | breakpointEvent : Sent BreakpointEvent.layout
  | setBreakpoints : Sent SetBreakpointsAnswer.layout
  | stackFrame : Sent StackFrame.layout
  | stackTrace : Sent StackTraceAnswer.layout
  | scope : Sent Scope.layout
  | scopes : Sent ScopesAnswer.layout
  | presentationHint : Sent VariablePresentationHint.layout
  | «variable» : Sent Variable.layout
  | «variables» : Sent VariablesAnswer.layout
  | thread : Sent Thread.layout
  | threads : Sent ThreadsAnswer.layout
  | evaluate : Sent EvaluateAnswer.layout
  | setVariable : Sent SetVariableAnswer.layout
  | continueRun : Sent ContinueAnswer.layout
  | stopped : Sent StoppedEvent.layout
  | threadEvent : Sent ThreadEvent.layout

theorem Sent.regular {α : Type} {layout : Layout α} (sent : Sent layout) : layout.IsRegular := by
  cases sent
  all_goals exact ⟨by decide, rfl, by decide⟩

/--
What is sent is read back from its text, and from the data that the text is parsed to, whose keys
are sorted. The same value is read from any data that agrees with it once its keys are sorted, and
from any text of such data, so the order in which the members are written does not count.
-/
theorem sent_read_back {α : Type} [HasLayout α] (sent : Sent (HasLayout.layout : Layout α))
    (value : α) :
    fromText (toText value) = .ok value ∧
      (∃ data, Json.parse (toText value) = .ok data ∧ data.sorted = data ∧
        fromJson data = .ok value) ∧
      ∀ data : Json, data.Distinct → data.sorted = (toJson value).sorted →
        fromJson data = .ok value ∧
          ∀ text, Json.draftOf text = (data.draft, false) → fromText text = .ok value := by
  have regular := sent.regular
  have other : ∀ data : Json, data.Distinct → data.sorted = (toJson value).sorted →
      fromJson data = .ok value :=
    fun data distinct same => regular.read_of_sorted distinct same
  refine ⟨regular.readText_render_write value, ?_, ?_⟩
  · have settled := (toJson value).sorted_sorted
    exact ⟨(toJson value).sorted, regular.parse_render_write value, settled,
      other _ (Json.distinct_sorted _) settled⟩
  · intro data distinct same
    exact ⟨other data distinct same,
      fun text readable => regular.readText_of_sorted readable distinct same⟩

def awkwardFrame : Json :=
  .object [("source", .object [("path", .text "/srv/é.yml")]), ("line", .integer (-1)),
    ("name", .text "\r\n\"\\\x00"), ("id", .integer (-9223372036854775808)), ("column", .integer 0)]

theorem sent_read_back_of_awkwardFrame :
    Sent StackFrame.layout ∧ awkwardFrame.Distinct ∧
      fromText awkwardFrame.render = .ok
        { id := Int64.minValue, name := "\r\n\"\\\x00", line := -1,
          source := some { path := some "/srv/é.yml" } : StackFrame } := by
  have exactAt : ∀ value : Int64, Json.Exact (.integer value.toInt) :=
    fun value => .integer (isExact_toInt value)
  have exact : awkwardFrame.Exact := by
    refine .object ?_
    simp only [List.forall_mem_cons]
    refine ⟨.object ?_, exactAt (-1), .text _, exactAt Int64.minValue, exactAt 0, by simp⟩
    simp [Json.Exact.text]
  have distinct : awkwardFrame.Distinct := by
    refine .object (by decide) ?_
    simp [Json.Distinct.text, Json.Distinct.integer, Json.Distinct.object]
  exact ⟨.stackFrame, distinct, ((sent_read_back .stackFrame _).2.2 awkwardFrame distinct rfl).2 _
    (Json.draftOf_render exact)⟩

end Debuggee
