import Debuggee.Proofs.Frame.Cut
import Debuggee.Proofs.Layout.Written
import Debuggee.Protocol.Reply

/-!
What the client gets of the messages of a session: one frame for each of them, then the end of the
stream, and in each frame an object with the members of its message and no others. No text in a
message can end its frame or its object early.
-/

namespace Debuggee

namespace Json

def meaning (text : Bytes) : Except LayoutError Json := do
  let (draft, overrun) := draftOf text
  let data ← draft.toJson .value
  if overrun then .error (.fault .trailingCharacters) else .ok data

theorem meaning_render {data : Json} (exact : data.Exact) :
    meaning data.render = .ok data.sorted := by
  rw [meaning, draftOf_render exact]
  simp only [data.toJson_draft_value, bind, Except.bind]
  rfl

end Json

namespace Frame

def readAll (ending : Ending) (octets : Bytes) : List Bytes × Reading :=
  match _ : read ending octets with
  | .frame payload rest =>
    let (payloads, last) := readAll ending rest
    (payload :: payloads, last)
  | outcome => ([], outcome)
termination_by octets.length
decreasing_by exact read_frame_length (by assumption)

theorem readAll_of_frame {ending : Ending} {octets payload rest : Bytes}
    (found : read ending octets = .frame payload rest) :
    readAll ending octets =
      (payload :: (readAll ending rest).1, (readAll ending rest).2) := by
  rw [readAll]
  split
  · rename_i other otherRest same
    rw [found] at same
    cases same
    rfl
  · rename_i unframed
    exact absurd found (unframed payload rest)

theorem readAll_nil : readAll .closed [] = ([], .finished) := by
  have finished : read .closed [] = .finished := readFrom_of_nothing false none
  rw [readAll]
  split
  · rename_i found
    rw [finished] at found
    contradiction
  · rw [finished]

theorem readAll_write {payloads : List Bytes}
    (small : ∀ payload ∈ payloads, payload.length ≤ maxPayload) :
    readAll .closed (payloads.flatMap write) = (payloads, .finished) := by
  induction payloads with
  | nil => exact readAll_nil
  | cons payload payloads ih =>
      have first := read_write .closed (payloads.flatMap write) (small payload List.mem_cons_self)
      have others := ih fun other member => small other (List.mem_cons_of_mem _ member)
      rw [List.flatMap_cons, readAll_of_frame first, others]

end Frame

namespace ServerMessage

def body? : ServerMessage → Option Json
  | .response answer => answer.body
  | .event notice => notice.body

/-- Bodies as the messages are built with them: sorted data without doubles. -/
def Sound (message : ServerMessage) : Prop :=
  ∀ body ∈ message.body?, body.sorted = body ∧ body.Exact

def members (seq : Int) : ServerMessage → List (String × Json)
  | .response answer =>
    (answer.body.map fun body => ("body", body)).toList ++ [("command", .text answer.command)] ++
      (answer.message.map fun message => ("message", Json.text message)).toList ++
      [("request_seq", .integer answer.requestSeq.toInt), ("seq", .integer seq),
        ("success", .boolean answer.success), ("type", .text "response")]
  | .event notice =>
    (notice.body.map fun body => ("body", body)).toList ++
      [("event", .text notice.event), ("seq", .integer seq), ("type", .text "event")]

theorem sorted_toJson {message : ServerMessage} (sound : message.Sound) (seq : Int64) :
    (message.stamp seq).toJson.sorted = .object (message.members seq.toInt) := by
  cases message with
  | response answer =>
      obtain ⟨_, requestSeq, success, command, text, body⟩ := answer
      cases body with
      | none => cases text <;> rfl
      | some body =>
          have settled := (sound body rfl).1
          cases text
          all_goals
            change Json.object (("body", body.sorted) :: _) = _
            rw [settled]
            rfl
  | event notice =>
      obtain ⟨_, event, body⟩ := notice
      cases body with
      | none => rfl
      | some body =>
          have settled := (sound body rfl).1
          change Json.object (("body", body.sorted) :: _) = _
          rw [settled]
          rfl

theorem toJson_members (message : ServerMessage) (seq : Int64) :
    ∃ members, (message.stamp seq).toJson = .object members ∧ ∀ member ∈ members,
      (∃ number : Int64, member.2 = .integer number.toInt) ∨
        (∃ value, member.2 = .boolean value) ∨ (∃ value, member.2 = .text value) ∨
        message.body? = some member.2 := by
  cases message with
  | response answer =>
      refine ⟨_, rfl, ?_⟩
      intro member belongs
      simp only [List.mem_append, List.mem_cons, List.not_mem_nil, or_false, Option.mem_toList,
        Option.map_eq_some_iff] at belongs
      rcases belongs with ((rfl | rfl | rfl | rfl | rfl) | ⟨text, given, rfl⟩) | ⟨body, given, rfl⟩
      · exact Or.inl ⟨seq, rfl⟩
      · exact Or.inr (Or.inr (Or.inl ⟨_, rfl⟩))
      · exact Or.inl ⟨_, rfl⟩
      · exact Or.inr (Or.inl ⟨_, rfl⟩)
      · exact Or.inr (Or.inr (Or.inl ⟨_, rfl⟩))
      · exact Or.inr (Or.inr (Or.inl ⟨_, rfl⟩))
      · exact Or.inr (Or.inr (Or.inr given))
  | event notice =>
      refine ⟨_, rfl, ?_⟩
      intro member belongs
      simp only [List.mem_append, List.mem_cons, List.not_mem_nil, or_false, Option.mem_toList,
        Option.map_eq_some_iff] at belongs
      rcases belongs with (rfl | rfl | rfl) | ⟨body, given, rfl⟩
      · exact Or.inl ⟨seq, rfl⟩
      · exact Or.inr (Or.inr (Or.inl ⟨_, rfl⟩))
      · exact Or.inr (Or.inr (Or.inl ⟨_, rfl⟩))
      · exact Or.inr (Or.inr (Or.inr given))

theorem exact_toJson {message : ServerMessage} (sound : message.Sound) (seq : Int64) :
    (message.stamp seq).toJson.Exact := by
  obtain ⟨members, whole, kinds⟩ := message.toJson_members seq
  rw [whole]
  refine .object fun member belongs => ?_
  rcases kinds member belongs with ⟨number, same⟩ | ⟨value, same⟩ | ⟨value, same⟩ | given
  · rw [same]
    exact .integer (isExact_toInt number)
  · rw [same]
    exact .boolean value
  · rw [same]
    exact .text value
  · exact (sound _ given).2

theorem depth_toJson_le {message : ServerMessage} {levels : Nat} (seq : Int64)
    (shallow : ∀ body ∈ message.body?, body.depth ≤ levels) :
    (message.stamp seq).toJson.depth ≤ levels + 1 := by
  obtain ⟨members, whole, kinds⟩ := message.toJson_members seq
  rw [whole]
  apply Nat.succ_le_succ
  rw [Json.depthMembers_le_iff]
  intro member belongs
  rcases kinds member belongs with ⟨number, same⟩ | ⟨value, same⟩ | ⟨value, same⟩ | given
  · rw [same]
    exact Nat.zero_le levels
  · rw [same]
    exact Nat.zero_le levels
  · rw [same]
    exact Nat.zero_le levels
  · exact shallow _ given

theorem stampAll_getElem? (start : Int64) (messages : List ServerMessage) (place : Nat) :
    (stampAll start messages)[place]? =
      messages[place]?.map fun message => message.stamp (start + Int64.ofNat place) := by
  induction messages generalizing start place with
  | nil => rfl
  | cons message messages ih =>
      cases place with
      | zero => simp [stampAll]
      | succ place =>
          have next : start + 1 + Int64.ofNat place = start + Int64.ofNat (place + 1) := by
            rw [Int64.add_assoc, Nat.add_comm place 1, Int64.ofNat_add]
            rfl
          rw [stampAll, List.getElem?_cons_succ, List.getElem?_cons_succ, ih, next]

theorem length_stampAll (start : Int64) (messages : List ServerMessage) :
    (stampAll start messages).length = messages.length := by
  induction messages generalizing start with
  | nil => rfl
  | cons message messages ih => rw [stampAll, List.length_cons, List.length_cons, ih]

theorem toInt_add_ofNat {start : Int64} {place : Nat} (fits : start.toInt + place < 2 ^ 63) :
    (start + Int64.ofNat place).toInt = start.toInt + place := by
  have low := start.minValue_le_toInt
  have least : Int64.minValue.toInt = -(2 ^ 63) := rfl
  have size : Int64.size = 2 ^ 64 := rfl
  rw [Int64.toInt_add, Int64.toInt_ofNat', size, Int.add_bmod_bmod]
  apply Int.bmod_eq_of_le <;> omega

/--
The messages of a session, numbered in their order and framed, are read as that many frames and no
more. In each of them stands an object with the members of its message. Readers that limit the
nesting of data find it too, as long as the body is not nested deeper than they allow.
-/
theorem read_stampAll (start : Int64) (messages : List ServerMessage)
    (sound : ∀ message ∈ messages, message.Sound)
    (small : ∀ message ∈ stampAll start messages, message.payload.length ≤ Frame.maxPayload) :
    ∃ payloads, Frame.readAll .closed ((stampAll start messages).flatMap frame) =
        (payloads, .finished) ∧ payloads.length = messages.length ∧
      ∀ (place : Nat) (message : ServerMessage) (payload : Bytes),
        messages[place]? = some message → payloads[place]? = some payload →
        start.toInt + place < 2 ^ 63 →
        Json.meaning payload = .ok (.object (message.members (start.toInt + place))) ∧
          ((∀ body ∈ message.body?, body.depth ≤ 126) →
            Json.parse payload = .ok (.object (message.members (start.toInt + place)))) := by
  refine ⟨(stampAll start messages).map payload, ?_, ?_, ?_⟩
  · have fits : ∀ text ∈ (stampAll start messages).map payload, text.length ≤ Frame.maxPayload :=
      List.forall_mem_map.mpr small
    have framed : (stampAll start messages).flatMap frame =
        ((stampAll start messages).map payload).flatMap Frame.write := by
      rw [List.flatMap_map]
      rfl
    rw [framed]
    exact Frame.readAll_write fits
  · rw [List.length_map, length_stampAll]
  · intro place message text found written fits
    have given := sound message (List.mem_of_getElem? found)
    rw [List.getElem?_map, stampAll_getElem?, found] at written
    have same := Option.some.inj written
    subst same
    have object := sorted_toJson given (start + Int64.ofNat place)
    have exact := exact_toJson given (start + Int64.ofNat place)
    rw [toInt_add_ofNat fits] at object
    constructor
    · rw [payload, Json.meaning_render exact, object]
    · intro shallow
      rw [payload, Json.parse_render exact (depth_toJson_le _ shallow), object]

theorem sound_withBody [HasLayout α] {body : α} (exact : (Debuggee.toJson body).Exact)
    (requestSeq : Int64) (name : String) :
    Sound (.response (Response.withBody requestSeq name body)) ∧
      Sound (.event (Event.withBody name body)) := by
  have whole : (Debuggee.toJson body).sorted.sorted = (Debuggee.toJson body).sorted ∧
      (Debuggee.toJson body).sorted.Exact :=
    ⟨Json.sorted_sorted _, exact.sorted⟩
  constructor
  · rintro _ ⟨⟩
    exact whole
  · rintro _ ⟨⟩
    exact whole

theorem sound_breakpointChanged (breakpoint : Breakpoint) :
    Sound (.event (Event.breakpointChanged breakpoint)) :=
  (sound_withBody (BreakpointEvent.layout.good_write hereditary_exact (by decide)
    (BreakpointEvent.layout.bears_of_isClosed rfl _)) 0 "breakpoint").2

def awkward : List ServerMessage :=
  [.response (.fail 3 "Content-Length: 2\r\n\r\n" "no \"such\" command\n\x7d"),
    .event (.breakpointChanged { verified := true, line := some 7 })]

theorem read_stampAll_of_awkward :
    ∃ payloads, Frame.readAll .closed (stream awkward) = (payloads, .finished) ∧
      payloads.length = 2 ∧ ∀ payload, payloads[0]? = some payload →
        Json.parse payload = .ok (.object [("command", .text "Content-Length: 2\r\n\r\n"),
          ("message", .text "no \"such\" command\n\x7d"), ("request_seq", .integer 3),
          ("seq", .integer 1), ("success", .boolean false), ("type", .text "response")]) := by
  have sound : ∀ message ∈ awkward, message.Sound := by
    intro message belongs
    simp only [awkward, List.mem_cons, List.not_mem_nil, or_false] at belongs
    rcases belongs with rfl | rfl
    · rintro _ ⟨⟩
    · exact sound_breakpointChanged _
  have small : ∀ message ∈ stampAll 1 awkward, message.payload.length ≤ Frame.maxPayload := by
    decide +kernel
  obtain ⟨payloads, read, count, each⟩ := read_stampAll 1 awkward sound small
  refine ⟨payloads, read, count, ?_⟩
  intro payload first
  exact (each 0 _ payload rfl first (by decide)).2 (by rintro _ ⟨⟩)

end ServerMessage

end Debuggee
