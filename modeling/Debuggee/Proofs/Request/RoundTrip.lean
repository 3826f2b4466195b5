import Debuggee.Proofs.Layout.ReadBack
import Debuggee.Proofs.Request.Reader

/-!
Decoding gives back the message that was encoded: every request, and every output event whose data
is not nested too deep. It does not matter in which order a client writes the members.
-/

namespace Debuggee

theorem Json.Settled.distinct {data : Json} (settled : data.Settled) : data.Distinct := by
  have distinct := data.distinct_sorted
  rwa [settled.1] at distinct

namespace Command

theorem taken (command : Command) :
    (command.arguments? = none ∧ reader? command.name = some fun _ => .ok command) ∨
      ∃ (α : Type) (_ : HasLayout α) (value : α) (make : α → Command), command = make value ∧
        command.arguments? = some (toJson value) ∧
        reader? command.name = some (fun data => (fromJson data).map make) ∧
        (HasLayout.layout : Layout α).isDistinct = true ∧
        (HasLayout.layout : Layout α).isClosed = true ∧
        (HasLayout.layout : Layout α).levels ≤ 3 := by
  cases command with
  | configurationDone => exact Or.inl ⟨rfl, rfl⟩
  | continueRun given =>
      exact Or.inr ⟨_, _, given, .continueRun, rfl, rfl, rfl, by decide, rfl, by decide⟩
  | evaluate given =>
      exact Or.inr ⟨_, _, given, .evaluate, rfl, rfl, rfl, by decide, rfl, by decide⟩
  | next given => exact Or.inr ⟨_, _, given, .next, rfl, rfl, rfl, by decide, rfl, by decide⟩
  | scopes given => exact Or.inr ⟨_, _, given, .scopes, rfl, rfl, rfl, by decide, rfl, by decide⟩
  | setBreakpoints given =>
      exact Or.inr ⟨_, _, given, .setBreakpoints, rfl, rfl, rfl, by decide, rfl, by decide⟩
  | setVariable given =>
      exact Or.inr ⟨_, _, given, .setVariable, rfl, rfl, rfl, by decide, rfl, by decide⟩
  | stackTrace given =>
      exact Or.inr ⟨_, _, given, .stackTrace, rfl, rfl, rfl, by decide, rfl, by decide⟩
  | stepIn given => exact Or.inr ⟨_, _, given, .stepIn, rfl, rfl, rfl, by decide, rfl, by decide⟩
  | stepOut given => exact Or.inr ⟨_, _, given, .stepOut, rfl, rfl, rfl, by decide, rfl, by decide⟩
  | threads => exact Or.inl ⟨rfl, rfl⟩
  | «variables» given =>
      exact Or.inr ⟨_, _, given, .variables, rfl, rfl, rfl, by decide, rfl, by decide⟩

theorem decode_arguments (seq : Int64) (command : Command) :
    decode seq command.name (command.arguments?.map Json.sorted) = .ok command := by
  rcases command.taken with ⟨without, reader⟩ |
    ⟨α, layout, value, make, made, given, reader, tidy, closed, -⟩
  · rw [decode_of_reader reader]
    rfl
  · have read : fromJson (orEmpty (command.arguments?.map Json.sorted)) = .ok value := by
      rw [given]
      exact fromJson_sorted_toJson tidy closed value
    rw [decode_of_reader reader, read, made]
    rfl

theorem arguments_ne_null {command : Command} {data : Json}
    (given : command.arguments? = some data) :
    data ≠ .null := by
  rcases command.taken with ⟨without, -⟩ | ⟨α, layout, value, -, -, same, -, -, closed, -⟩
  · rw [without] at given
    contradiction
  · rw [same] at given
    cases given
    exact HasLayout.layout.write_ne_null (HasLayout.layout.bears_of_isClosed closed value)

theorem arguments_good {Good : Json → Prop} (hereditary : Hereditary Good) {command : Command}
    {data : Json} (given : command.arguments? = some data) : Good data := by
  rcases command.taken with ⟨without, -⟩ | ⟨α, layout, value, -, -, same, -, tidy, closed, -⟩
  · rw [without] at given
    contradiction
  · rw [same] at given
    cases given
    exact HasLayout.layout.good_write hereditary tidy
      (HasLayout.layout.bears_of_isClosed closed value)

theorem arguments_depth {command : Command} {data : Json} (given : command.arguments? = some data) :
    data.depth ≤ 3 := by
  rcases command.taken with ⟨without, -⟩ | ⟨α, layout, value, -, -, same, -, -, closed, levels⟩
  · rw [without] at given
    contradiction
  · rw [same] at given
    cases given
    have bounded : (toJson value).depth ≤ HasLayout.layout.levels + 0 :=
      HasLayout.layout.depth_write (HasLayout.layout.bears_of_isClosed closed value)
    exact bounded.trans levels

end Command

section Output

variable {event : OutputEvent}

theorem OutputEvent.bears_iff {Good : Json → Prop} :
    OutputEvent.layout.Bears Good event ↔ ∀ data ∈ event.data, Good data := by
  simp [OutputEvent.layout, Layout.Bears, Fields.Bears, Field.Bears]

theorem OutputEvent.toJson_eq (event : OutputEvent) :
    toJson event = .object
      ((event.category.map fun category => ("category", Json.text category)).toList ++
        [("output", .text event.output)] ++
        (event.data.map fun data => ("data", data)).toList) := by
  obtain ⟨category, output, data⟩ := event
  cases category <;> cases data <;> rfl

theorem OutputEvent.toJson_ne_null (event : OutputEvent) : toJson event ≠ .null := by
  rw [event.toJson_eq]
  exact Json.noConfusion

theorem OutputEvent.depth_eq {data : Json} (given : event.data = some data) :
    (toJson event).depth = data.depth + 1 := by
  rw [event.toJson_eq, given]
  cases event.category <;> simp [Json.depth, Json.depthMembers]

end Output

namespace ClientMessage

/--
The objects in which a client may send a message: a request with its number, and an event with a
number or without one.
-/
inductive Written : ClientMessage → Json → Prop where
  | request (asked : Request) : Written (.request asked) (.object
      ([("seq", .integer asked.seq.toInt), ("type", .text "request"),
        ("command", .text asked.command.name)] ++
        (asked.command.arguments?.map fun arguments => ("arguments", arguments)).toList))
  | output (told : OutputEvent) (seq : Option Int64) : Written (.output told) (.object
      ((seq.map fun seq => ("seq", Json.integer seq.toInt)).toList ++
        [("type", .text "event"), ("event", .text "output"), ("body", toJson told)]))

/-- How deep the data of an event may be nested: its message and its body are around it. -/
def maxDataDepth : Nat := 125

def Sendable : ClientMessage → Prop
  | .request _ => True
  | .output told => ∀ data ∈ told.data, data.Settled ∧ data.Exact ∧ data.depth ≤ maxDataDepth

theorem written_envelope (message : ClientMessage) : message.Written (toJson message.envelope) := by
  cases message with
  | request asked =>
      obtain ⟨seq, command⟩ := asked
      cases command <;> exact .request _
  | output told => exact .output told (some 0)

section Written

variable {message : ClientMessage} {object : Json}

theorem Written.shows (written : message.Written object) (sendable : message.Sendable) :
    ∃ envelope, Envelope.layout.Shows envelope object ∧ ofEnvelope envelope = .ok message := by
  cases written with
  | request asked =>
      refine ⟨⟨asked.seq, "request", some asked.command.name,
        asked.command.arguments?.map Json.sorted, none, none⟩, ?_, ?_⟩
      · cases given : asked.command.arguments? with
        | none =>
            simp [Envelope.layout, Layout.Shows, Fields.Shows, Field.Shows, Field.name,
              List.lookup, -List.lookup_eq_none_iff]
        | some arguments =>
            have notNull := Command.arguments_ne_null given
            simp [Envelope.layout, Layout.Shows, Fields.Shows, Field.Shows, Field.name,
              List.lookup, -List.lookup_eq_none_iff, notNull]
      · simp only [ofEnvelope, Command.decode_arguments]
        rfl
  | output told seq =>
      refine ⟨⟨seq.getD 0, "event", none, none, some "output", some (toJson told).sorted⟩, ?_, ?_⟩
      · have notNull := told.toJson_ne_null
        cases seq <;>
          simp [Envelope.layout, Layout.Shows, Fields.Shows, Field.Shows, Field.name, List.lookup,
            -List.lookup_eq_none_iff, notNull]
      · have settled : OutputEvent.layout.Bears Json.Settled told :=
          OutputEvent.bears_iff.mpr fun data held => (sendable data held).1
        have distinct : OutputEvent.layout.Bears Json.Distinct told :=
          OutputEvent.bears_iff.mpr fun data held => (sendable data held).1.distinct
        have read : fromJson (toJson told).sorted = .ok told :=
          OutputEvent.layout.read_sorted_write (by decide) settled distinct
        simp only [ofEnvelope, Option.getD_some, if_true, orEmpty, read]

theorem Written.members (written : message.Written object) :
    ∃ members, object = .object members ∧ (members.map Prod.fst).Nodup ∧ ∀ member ∈ members,
      (∃ seq : Int64, member.2 = .integer seq.toInt) ∨ (∃ value, member.2 = .text value) ∨
        (∃ command : Command, command.arguments? = some member.2) ∨
        ∃ told, message = .output told ∧ member.2 = toJson told := by
  cases written with
  | request asked =>
      refine ⟨_, rfl, ?_, ?_⟩
      · cases asked.command.arguments? <;> simp
      · intro member belongs
        simp only [List.mem_append, List.mem_cons, List.not_mem_nil, or_false, Option.mem_toList,
          Option.map_eq_some_iff] at belongs
        rcases belongs with (rfl | rfl | rfl) | ⟨arguments, given, rfl⟩
        · exact Or.inl ⟨_, rfl⟩
        · exact Or.inr (Or.inl ⟨_, rfl⟩)
        · exact Or.inr (Or.inl ⟨_, rfl⟩)
        · exact Or.inr (Or.inr (Or.inl ⟨_, given⟩))
  | output told seq =>
      refine ⟨_, rfl, ?_, ?_⟩
      · cases seq <;> simp
      · intro member belongs
        simp only [List.mem_append, List.mem_cons, List.not_mem_nil, or_false, Option.mem_toList,
          Option.map_eq_some_iff] at belongs
        rcases belongs with ⟨seq, given, rfl⟩ | rfl | rfl | rfl
        · exact Or.inl ⟨_, rfl⟩
        · exact Or.inr (Or.inl ⟨_, rfl⟩)
        · exact Or.inr (Or.inl ⟨_, rfl⟩)
        · exact Or.inr (Or.inr (Or.inr ⟨_, rfl, rfl⟩))

theorem Written.good {Good : Json → Prop} (hereditary : Hereditary Good)
    (written : message.Written object)
    (free : ∀ told, message = .output told → ∀ data ∈ told.data, Good data) : Good object := by
  obtain ⟨members, rfl, keys, kinds⟩ := written.members
  refine hereditary.object members keys ?_
  intro member belongs
  rcases kinds member belongs with ⟨seq, number⟩ | ⟨value, text⟩ | ⟨command, given⟩ |
    ⟨told, event, body⟩
  · rw [number]
    exact hereditary.integer _ (isExact_toInt seq)
  · rw [text]
    exact hereditary.text value
  · exact Command.arguments_good hereditary given
  · rw [body]
    exact OutputEvent.layout.good_write hereditary (by decide)
      (OutputEvent.bears_iff.mpr (free told event))

theorem Written.depth_le (written : message.Written object) (sendable : message.Sendable) :
    object.depth ≤ 127 := by
  obtain ⟨members, rfl, -, kinds⟩ := written.members
  apply Nat.succ_le_succ
  rw [Json.depthMembers_le_iff]
  intro member belongs
  rcases kinds member belongs with ⟨seq, number⟩ | ⟨value, text⟩ | ⟨command, given⟩ |
    ⟨told, rfl, body⟩
  · rw [number]
    exact Nat.zero_le _
  · rw [text]
    exact Nat.zero_le _
  · exact (Command.arguments_depth given).trans (by decide)
  · rw [body]
    have shallow : ∀ data ∈ told.data, data.depth ≤ maxDataDepth :=
      fun data held => (sendable data held).2.2
    exact OutputEvent.layout.depth_write (OutputEvent.bears_iff.mpr shallow)

theorem Written.distinct (written : message.Written object) (sendable : message.Sendable) :
    object.Distinct := by
  apply written.good hereditary_distinct
  rintro told rfl data held
  exact (sendable data held).1.distinct

theorem Written.exact (written : message.Written object) (sendable : message.Sendable) :
    object.Exact := by
  apply written.good hereditary_exact
  rintro told rfl data held
  exact (sendable data held).2.1

theorem Written.decode (written : message.Written object) (sendable : message.Sendable)
    {data : Json} {text : Bytes} (readable : Json.draftOf text = (data.draft, false))
    (distinct : data.Distinct) (same : data.sorted = object.sorted) :
    ClientMessage.decode text = .ok message := by
  obtain ⟨envelope, shows, stands⟩ := written.shows sendable
  have objectDistinct := written.distinct sendable
  have shown : Envelope.layout.Shows envelope data := by
    rw [← Envelope.layout.shows_sorted_iff distinct, same]
    exact (Envelope.layout.shows_sorted_iff objectDistinct).mpr shows
  have depth : data.depth ≤ 127 := by
    rw [← distinct.depth_sorted, same, objectDistinct.depth_sorted]
    exact written.depth_le sendable
  have envelopeRead : (fromText text : Except LayoutError Envelope) = .ok envelope :=
    Envelope.layout.readText_of_shows (by decide) readable distinct depth shown
  rw [ClientMessage.decode, envelopeRead]
  exact stands

end Written

/--
Requests of every kind, and output events whose data is nested no deeper than their message leaves
room for, are decoded from what was encoded. So they are from any other text of the same data:
its members may stand in any order, and the number of an event may be there or not.
-/
theorem decode_encode (message : ClientMessage) (sendable : message.Sendable) :
    decode message.encode = .ok message ∧
      ∀ (object data : Json) (text : Bytes), message.Written object →
        Json.draftOf text = (data.draft, false) → data.Distinct → data.sorted = object.sorted →
        decode text = .ok message := by
  have written := message.written_envelope
  have readable := Json.draftOf_render (written.exact sendable)
  refine ⟨written.decode sendable readable (written.distinct sendable) rfl, ?_⟩
  intro object data text other readable unique same
  exact other.decode sendable readable unique same

def stepReordered : Json :=
  .object [("type", .text "request"), ("command", .text "next"), ("arguments", .object
    [("granularity", .text "line"), ("singleThread", .boolean false), ("threadId", .integer 1)]),
    ("seq", .integer 7)]

theorem decode_encode_of_next :
    Sendable (.request ⟨7, .next { threadId := 1, granularity := some "line" }⟩) ∧
      decode stepReordered.render =
        .ok (.request ⟨7, .next { threadId := 1, granularity := some "line" }⟩) := by
  have one : Json.Exact (.integer 1) := .integer ⟨by decide, by decide⟩
  have seven : Json.Exact (.integer 7) := .integer ⟨by decide, by decide⟩
  have arguments : Json.Exact (.object [("granularity", .text "line"),
      ("singleThread", .boolean false), ("threadId", .integer 1)]) := by
    refine .object ?_
    simp [Json.Exact.text, Json.Exact.boolean, one]
  have exact : stepReordered.Exact := by
    refine .object ?_
    simp [Json.Exact.text, seven, arguments]
  have distinct : stepReordered.Distinct := by
    refine .object (by decide) ?_
    simp [Json.Distinct.text, Json.Distinct.integer, Json.Distinct.boolean,
      Json.Distinct.object]
  exact ⟨trivial, (decode_encode (.request ⟨7, .next _⟩) trivial).2 _ _ _ (.request _)
    (Json.draftOf_render exact) distinct rfl⟩

/-- Beyond that depth the reader gives up, whatever else stands in the message. -/
theorem decode_too_deep {told : OutputEvent} {data : Json} (held : told.data = some data)
    (exact : data.Exact) (deep : maxDataDepth < data.depth) :
    decode (ClientMessage.output told).encode = .error (.unreadable (.fault .tooDeep)) := by
  have free : ∀ other, ClientMessage.output told = .output other →
      ∀ given ∈ other.data, given.Exact := by
    rintro other same given present
    cases same
    rw [held] at present
    cases present
    exact exact
  have objectExact := (written_envelope (.output told)).good hereditary_exact free
  have readable := Json.draftOf_render objectExact
  have refused : (toJson told).draft.toJson (.text 126) = .error (.fault .tooDeep) := by
    rw [(toJson told).toJson_draft, told.depth_eq held]
    apply if_neg
    simp only [Medium.admits, maxDataDepth] at deep ⊢
    simp
    omega
  obtain ⟨members, drafted⟩ : ∃ members, (toJson told).draft = .object members .closed := by
    rw [told.toJson_eq]
    exact ⟨_, rfl⟩
  rw [drafted] at refused
  have read : Envelope.layout.read .fullText (toJson (ClientMessage.output told).envelope).draft =
      .error (.fault .tooDeep) := by
    have whole : toJson (ClientMessage.output told).envelope = .object ([("seq", .integer 0),
      ("type", .text "event"), ("event", .text "output")] ++ [("body", toJson told)]) := rfl
    rw [whole]
    refine read_record_refused rfl rfl ?_
    rw [drafted]
    simp [Fields.readMember, Field.read, Field.name, Fields.vacant, Layout.read, refused, passing,
      Lexeme.plain, Except.mapError, Except.map, bind, Except.bind]
  have envelopeRead : (fromText (ClientMessage.output told).encode : Except LayoutError Envelope) =
      .error (.fault .tooDeep) := by
    change Envelope.layout.readText (toJson (ClientMessage.output told).envelope).render = _
    rw [Layout.readText, readable]
    simp only [read, bind, Except.bind]
  rw [decode, envelopeRead]

def nest : Nat → Json
  | 0 => .list []
  | levels + 1 => .list [nest levels]

theorem nest_good {Good : Json → Prop} (hereditary : Hereditary Good) (levels : Nat) :
    Good (nest levels) := by
  induction levels with
  | zero => exact hereditary.list [] (by simp)
  | succ levels ih => exact hereditary.list _ (by simpa using ih)

theorem sorted_nest (levels : Nat) : (nest levels).sorted = nest levels := by
  induction levels with
  | zero => rfl
  | succ levels ih => rw [nest, Json.sorted, Json.sortedItems, ih, Json.sortedItems]

theorem depth_nest (levels : Nat) : (nest levels).depth = levels + 1 := by
  induction levels with
  | zero => rfl
  | succ levels ih => rw [nest, Json.depth, Json.depthItems, ih, Json.depthItems, Nat.max_zero]

theorem decode_encode_fails_of_nest :
    (nest 125).Settled ∧ (nest 125).Exact ∧
      decode (ClientMessage.output { data := some (nest 125) }).encode ≠
        .ok (.output { data := some (nest 125) }) := by
  have exact := nest_good hereditary_exact 125
  refine ⟨⟨sorted_nest 125, Json.noConfusion⟩, exact, ?_⟩
  rw [decode_too_deep rfl exact (by rw [depth_nest]; decide)]
  simp

end ClientMessage

end Debuggee
