import Debuggee.Proofs.Layout.Alike
import Debuggee.Proofs.Request.Reader
import Mathlib

/-!
What an error of decoding tells about the texts in the arguments of a request or the body of an
event. Two messages that differ in nothing but such texts are both decoded or both refused. The
refusals read the same as long as the text in the wrong place has no double quote.
-/

namespace Debuggee

variable {Like : String → String → Prop}

section Errors

def Unquoted (text : String) : Prop :=
  '\"' ∉ text.toList
  deriving Decidable

def LayoutError.misplaced? : LayoutError → Option String
  | .wrongKind (.text value) _ => some value
  | _ => none

def DecodeError.misplaced? : DecodeError → Option String
  | .unreadable error => error.misplaced?
  | .invalidArguments _ _ error => error.misplaced?
  | _ => none

inductive DecodeError.Alike (Like : String → String → Prop) : DecodeError → DecodeError → Prop where
  | same (error : DecodeError) : Alike Like error error
  | unreadable {error error' : LayoutError} (alike : error.Alike Like error') :
      Alike Like (.unreadable error) (.unreadable error')
  | invalidArguments (seq : Int64) (command : String) {error error' : LayoutError}
      (alike : error.Alike Like error') :
      Alike Like (.invalidArguments seq command error) (.invalidArguments seq command error')

def Wanted.instead (wanted : Wanted) : String :=
  "invalid type: " ++ ("string " ++ String.ofList Text.quotedMark) ++ ", expected " ++
    wanted.describe

theorem redact_misplaced {wanted : Wanted} (plain : wanted.Plain) (text : String) :
    Text.redact (LayoutError.wrongKind (.text text) wanted).message = wanted.instead ↔
      Unquoted text := by
  have before : Text.Plain ("invalid type: ".toList ++ "string ".toList) := by decide
  have comma : Text.Plain ", expected ".toList := by decide
  have after : Text.Plain (", expected ".toList ++ wanted.describe.toList) := by
    rw [Text.Plain, List.mem_append, List.mem_append, not_or, not_or]
    exact ⟨⟨comma.1, plain.1⟩, comma.2, plain.2⟩
  have spelled (quoted : List Char) :
      ("invalid type: " ++ ("string " ++ String.ofList quoted) ++ ", expected " ++
        wanted.describe).toList =
      "invalid type: ".toList ++ "string ".toList ++ quoted ++
        (", expected ".toList ++ wanted.describe.toList) := by
    simp only [String.toList_append, String.toList_ofList, List.append_assoc]
  have replaced := Text.redactList_quotedList before after text.toList
  rw [← spelled, ← spelled] at replaced
  rw [Text.redact, ← String.toList_inj, String.toList_ofList]
  exact replaced

theorem redact_misplaced_eq {wanted : Wanted} (plain : wanted.Plain) {text text' : String}
    (hidden : Unquoted text ∨ Unquoted text') :
    Text.redact (LayoutError.wrongKind (.text text) wanted).message =
        Text.redact (LayoutError.wrongKind (.text text') wanted).message ↔
      Unquoted text ∧ Unquoted text' := by
  rw [← redact_misplaced plain text, ← redact_misplaced plain text'] at hidden ⊢
  constructor
  · intro same
    rcases hidden with first | second
    · exact ⟨first, same.symm.trans first⟩
    · exact ⟨same.trans second, second⟩
  · rintro ⟨first, second⟩
    rw [first, second]

variable {error error' : DecodeError}

theorem DecodeError.Alike.request?_eq (alike : error.Alike Like error') :
    error.request? = error'.request? := by
  cases alike <;> rfl

theorem DecodeError.Alike.message_eq (alike : error.Alike Like error') :
    error = error' ∨ ∃ text text', Like text text' ∧
      error.misplaced? = some text ∧ error'.misplaced? = some text' ∧
      (Unquoted text ∨ Unquoted text' →
        (error.message = error'.message ↔ Unquoted text ∧ Unquoted text')) := by
  cases alike with
  | same => exact Or.inl rfl
  | unreadable alike =>
      cases alike with
      | same => exact Or.inl rfl
      | text like plain =>
          exact Or.inr ⟨_, _, like, rfl, rfl, fun hidden =>
            (String.append_right_inj _).trans (redact_misplaced_eq plain hidden)⟩
  | invalidArguments seq command alike =>
      cases alike with
      | same => exact Or.inl rfl
      | text like plain =>
          exact Or.inr ⟨_, _, like, rfl, rfl, fun hidden =>
            (String.append_right_inj _).trans (redact_misplaced_eq plain hidden)⟩

end Errors

section Requests

variable {name : String} {data data' : Json}

theorem orEmpty_alike {given given' : Option Json}
    (alike : Option.Rel (Json.Alike Like) given given') :
    (orEmpty given).Alike Like (orEmpty given') := by
  cases alike with
  | some alike => exact alike
  | none => exact .object .nil

theorem Command.reader?_alike {read : Json → Except LayoutError Command}
    (found : Command.reader? name = some read) (alike : data.Alike Like data') :
    Agree (LayoutError.Alike Like) Unrelated (read data) (read data') := by
  have made {α : Type} [HasLayout α] {make : α → Command}
      (plain : (HasLayout.layout : Layout α).isPlain = true) :
      Agree (LayoutError.Alike Like) Unrelated ((fromJson data).map make)
        ((fromJson data').map make) :=
    (fromJson_alike plain alike).map fun _ _ _ => trivial
  unfold Command.reader? at found
  split at found <;> cases found
  all_goals first
    | exact .ok trivial
    | exact made (by decide)

theorem Command.decode_agree (seq : Int64) {given given' : Option Json}
    (alike : Option.Rel (Json.Alike Like) given given') :
    Agree (DecodeError.Alike Like) Unrelated (Command.decode seq name given)
      (Command.decode seq name given') := by
  cases found : Command.reader? name with
  | none =>
      rw [Command.decode_of_unknown found, Command.decode_of_unknown found]
      exact .error (DecodeError.Alike.same _)
  | some read =>
      rw [Command.decode_of_reader found, Command.decode_of_reader found]
      exact (Command.reader?_alike found (orEmpty_alike alike)).mapError
        fun _ _ alike => .invalidArguments seq name alike

end Requests

structure Envelope.Alike (Like : String → String → Prop) (envelope envelope' : Envelope) :
    Prop where
  seq : envelope.seq = envelope'.seq
  typeName : envelope.typeName = envelope'.typeName
  command : envelope.command = envelope'.command
  arguments : Option.Rel (Json.Alike Like) envelope.arguments envelope'.arguments
  event : envelope.event = envelope'.event
  body : Option.Rel (Json.Alike Like) envelope.body envelope'.body

namespace ClientMessage

variable {envelope envelope' : Envelope} {payload payload' : Bytes}

theorem ofEnvelope_alike (alike : envelope.Alike Like envelope') :
    Agree (DecodeError.Alike Like) Unrelated (ofEnvelope envelope) (ofEnvelope envelope') := by
  unfold ofEnvelope
  rw [← alike.typeName, ← alike.command, ← alike.event, ← alike.seq]
  split
  case h_1 =>
    cases envelope.command with
    | none => exact .error (.same _)
    | some name =>
        exact (Command.decode_agree envelope.seq alike.arguments).bind fun _ _ _ => .ok trivial
  case h_2 =>
    have read : Agree (LayoutError.Alike Like) Unrelated
        (fromJson (orEmpty envelope.body) : Except LayoutError OutputEvent)
        (fromJson (orEmpty envelope'.body)) :=
      fromJson_alike (by decide) (orEmpty_alike alike.body)
    generalize (fromJson (orEmpty envelope.body) : Except LayoutError OutputEvent) = first,
      (fromJson (orEmpty envelope'.body) : Except LayoutError OutputEvent) = second at read ⊢
    by_cases output : envelope.event.getD "" = "output"
    · simp only [if_pos output]
      cases read with
      | ok => exact .ok trivial
      | error alike => exact .error (.unreadable alike)
    · simp only [if_neg output]
      exact .error (.same _)
  case h_3 => exact .error (.same _)

theorem decode_agree (readable : fromText payload = .ok envelope)
    (readable' : fromText payload' = .ok envelope') (alike : envelope.Alike Like envelope') :
    Agree (DecodeError.Alike Like) Unrelated (decode payload) (decode payload') := by
  simp only [decode, readable, readable']
  exact ofEnvelope_alike alike

/-- No error tells two messages apart that differ only in texts without a double quote. -/
theorem decode_unquoted (readable : fromText payload = .ok envelope)
    (readable' : fromText payload' = .ok envelope')
    (alike : envelope.Alike (fun text text' => Unquoted text ∧ Unquoted text') envelope') :
    (∃ message message', decode payload = .ok message ∧ decode payload' = .ok message') ∨
      ∃ error error', decode payload = .error error ∧ decode payload' = .error error' ∧
        error.message = error'.message := by
  have agree := decode_agree readable readable' alike
  generalize decode payload = first, decode payload' = second at agree ⊢
  cases agree with
  | ok => exact Or.inl ⟨_, _, rfl, rfl⟩
  | error alike =>
      refine Or.inr ⟨_, _, rfl, rfl, ?_⟩
      rcases alike.message_eq with same | ⟨text, text', hidden, _, _, told⟩
      · rw [same]
      · exact (told (Or.inl hidden.1)).mpr hidden

/--
Two messages that differ only in texts of their arguments or body are both decoded or both refused.
The refusals are the same but for one misplaced text each. If one of these has no double quote
then they read the same if and only if the other has none either.
-/
theorem decode_alike (readable : fromText payload = .ok envelope)
    (readable' : fromText payload' = .ok envelope') (alike : envelope.Alike Like envelope') :
    (∃ message message', decode payload = .ok message ∧ decode payload' = .ok message') ∨
      ∃ error error', decode payload = .error error ∧ decode payload' = .error error' ∧
        error.request? = error'.request? ∧
        (error = error' ∨ ∃ text text', Like text text' ∧
          error.misplaced? = some text ∧ error'.misplaced? = some text' ∧
          (Unquoted text ∨ Unquoted text' →
            (error.message = error'.message ↔ Unquoted text ∧ Unquoted text'))) := by
  have agree := decode_agree readable readable' alike
  generalize decode payload = first, decode payload' = second at agree ⊢
  cases agree with
  | ok => exact Or.inl ⟨_, _, rfl, rfl⟩
  | error alike => exact Or.inr ⟨_, _, rfl, rfl, alike.request?_eq, alike.message_eq⟩

section Scopes

def scopesText (spelled : String) : Bytes :=
  Bytes.ofString ("\x7b\"type\":\"request\",\"command\":\"scopes\"," ++
    "\"arguments\":\x7b\"frameId\":\"" ++ spelled ++ "\"\x7d\x7d")

def scopesEnvelope (frame : String) : Envelope where
  typeName := "request"
  command := some "scopes"
  arguments := some (.object [("frameId", .text frame)])

theorem scopesEnvelope_alike (frame frame' : String) :
    (scopesEnvelope frame).Alike (fun _ _ => True) (scopesEnvelope frame') :=
  ⟨rfl, rfl, rfl, .some (.object (.cons "frameId" (.text trivial) .nil)), rfl, .none⟩

theorem decode_scopesEnvelope {frame : String}
    (readable : fromText payload = .ok (scopesEnvelope frame)) :
    decode payload =
      .error (.invalidArguments 0 "scopes" (.wrongKind (.text frame) .integer)) := by
  rw [decode, readable]
  rfl

theorem decode_alike_of_pins :
    ∃ error error', decode (scopesText "1234") = .error error ∧
      decode (scopesText "98") = .error error' ∧ error.message = error'.message := by
  have readable : fromText (scopesText "1234") = .ok (scopesEnvelope "1234") := by cbv
  have readable' : fromText (scopesText "98") = .ok (scopesEnvelope "98") := by cbv
  rcases decode_alike readable readable' (scopesEnvelope_alike "1234" "98") with
    ⟨message, _, decoded, _⟩ | ⟨error, error', refused, refused', _, told⟩
  · rw [decode_scopesEnvelope readable] at decoded
    contradiction
  · refine ⟨error, error', refused, refused', ?_⟩
    rw [decode_scopesEnvelope readable] at refused
    rw [decode_scopesEnvelope readable'] at refused'
    obtain rfl := Except.error.inj refused
    obtain rfl := Except.error.inj refused'
    rcases told with same | ⟨text, text', _, first, second, told⟩
    · rw [same]
    · obtain rfl := Option.some.inj first
      obtain rfl := Option.some.inj second
      exact (told (Or.inl (by decide))).mpr (by decide)

theorem decode_alike_told :
    ∃ (envelope envelope' : Envelope) (error error' : DecodeError),
      fromText (scopesText "a\\\"pin") = .ok envelope ∧
      fromText (scopesText "pin") = .ok envelope' ∧
      envelope.Alike (fun _ _ => True) envelope' ∧
      decode (scopesText "a\\\"pin") = .error error ∧ decode (scopesText "pin") = .error error' ∧
      error.message =
        "invalid arguments for \"scopes\": invalid type: string \"<redacted>\"pin\", expected i64" ∧
      error'.message ≠ error.message := by
  have readable : fromText (scopesText "a\\\"pin") = .ok (scopesEnvelope "a\"pin") := by cbv
  have readable' : fromText (scopesText "pin") = .ok (scopesEnvelope "pin") := by cbv
  exact ⟨_, _, _, _, readable, readable', scopesEnvelope_alike _ _,
    decode_scopesEnvelope readable, decode_scopesEnvelope readable', by decide +kernel,
    by decide +kernel⟩

end Scopes

end ClientMessage

end Debuggee
