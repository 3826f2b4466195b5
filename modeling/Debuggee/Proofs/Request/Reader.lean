import Debuggee.Protocol.Request
import Mathlib

/-!
How a request is decoded: its envelope names a command, and the command says how its arguments are
read. What is wrong with a request that names a command is reported against its number and name.
-/

namespace Debuggee

namespace Command

def names : List String :=
  ["configurationDone", "continue", "evaluate", "next", "scopes", "setBreakpoints", "setVariable",
    "stackTrace", "stepIn", "stepOut", "threads", "variables"]

def reader? : String → Option (Json → Except LayoutError Command)
  | "configurationDone" => some fun _ => .ok .configurationDone
  | "continue" => some fun data => (fromJson data).map .continueRun
  | "evaluate" => some fun data => (fromJson data).map .evaluate
  | "next" => some fun data => (fromJson data).map .next
  | "scopes" => some fun data => (fromJson data).map .scopes
  | "setBreakpoints" => some fun data => (fromJson data).map .setBreakpoints
  | "setVariable" => some fun data => (fromJson data).map .setVariable
  | "stackTrace" => some fun data => (fromJson data).map .stackTrace
  | "stepIn" => some fun data => (fromJson data).map .stepIn
  | "stepOut" => some fun data => (fromJson data).map .stepOut
  | "threads" => some fun _ => .ok .threads
  | "variables" => some fun data => (fromJson data).map .variables
  | _ => none

section Decode

variable {seq : Int64} {name : String} {data : Option Json}

theorem decode_eq : decode seq name data =
    (reader? name).elim (.error (.unsupportedCommand seq name)) fun read =>
      (read (orEmpty data)).mapError (DecodeError.invalidArguments seq name) := by
  unfold decode
  split
  case h_13 =>
    have unknown : reader? name = none := by simp_all [reader?]
    rw [unknown]
    rfl
  all_goals first
    | rfl
    | dsimp only
      split <;> rename_i outcome <;> simp only [reader?, Option.elim, outcome] <;> rfl

theorem decode_of_reader {read : Json → Except LayoutError Command}
    (found : reader? name = some read) : decode seq name data =
      (read (orEmpty data)).mapError (DecodeError.invalidArguments seq name) := by
  rw [decode_eq, found]
  rfl

theorem decode_of_unknown (unknown : reader? name = none) :
    decode seq name data = .error (.unsupportedCommand seq name) := by
  rw [decode_eq, unknown]
  rfl

theorem reader?_isSome_iff (name : String) : (reader? name).isSome = true ↔ name ∈ names := by
  unfold reader?
  split <;> simp_all [names]

theorem name_of_reader? {read : Json → Except LayoutError Command} {arguments : Json}
    {command : Command} (found : reader? name = some read) (ok : read arguments = .ok command) :
    command.name = name := by
  have made {α : Type} {outcome : Except LayoutError α} {make : α → Command}
      (done : outcome.map make = .ok command) : ∃ value, command = make value := by
    cases outcome with
    | ok value => exact ⟨value, (Except.ok.inj done).symm⟩
    | error error => contradiction
  unfold reader? at found
  split at found <;> cases found
  all_goals first
    | (obtain ⟨value, same⟩ := made ok; rw [same]; rfl)
    | (rw [← Except.ok.inj ok]; rfl)

theorem name_of_decode {command : Command} (decoded : decode seq name data = .ok command) :
    command.name = name ∧ name ∈ names := by
  cases found : reader? name with
  | none =>
      rw [decode_of_unknown found] at decoded
      contradiction
  | some read =>
      rw [decode_of_reader found] at decoded
      cases outcome : read (orEmpty data) with
      | ok made =>
          rw [outcome] at decoded
          rw [← Except.ok.inj decoded]
          exact ⟨name_of_reader? found outcome, (reader?_isSome_iff name).mp (by rw [found]; rfl)⟩
      | error error =>
          rw [outcome] at decoded
          contradiction

theorem request?_of_decode {error : DecodeError} (refused : decode seq name data = .error error) :
    error.request? = some (seq, name) := by
  cases found : reader? name with
  | none =>
      rw [decode_of_unknown found] at refused
      rw [← Except.error.inj refused]
      rfl
  | some read =>
      rw [decode_of_reader found] at refused
      cases outcome : read (orEmpty data) with
      | ok made =>
          rw [outcome] at refused
          contradiction
      | error cause =>
          rw [outcome] at refused
          rw [← Except.error.inj refused]
          rfl

end Decode

end Command

namespace ClientMessage

variable {payload : Bytes} {envelope : Envelope}

def asked? (payload : Bytes) : Option (Envelope × String) :=
  match fromText payload with
  | .ok (envelope : Envelope) =>
    if envelope.typeName = "request" then envelope.command.map fun name => (envelope, name)
    else none
  | .error _ => none

theorem decode_of_asked {name : String} (asked : asked? payload = some (envelope, name)) :
    decode payload = (Command.decode envelope.seq name envelope.arguments).map
      fun command => .request ⟨envelope.seq, command⟩ := by
  unfold asked? at asked
  cases readable : (fromText payload : Except LayoutError Envelope) with
  | error error =>
      rw [readable] at asked
      contradiction
  | ok read =>
      simp only [readable] at asked
      split at asked
      · rename_i request
        obtain ⟨found, named, same⟩ := Option.map_eq_some_iff.mp asked
        obtain ⟨rfl, rfl⟩ := Prod.mk.inj same
        simp only [decode, readable, ofEnvelope, request, named]
        rfl
      · contradiction

/-- What is no request with a command is never answered. -/
theorem decode_of_unasked (unasked : asked? payload = none) :
    (∃ event, decode payload = .ok (.output event)) ∨
      ∃ error, decode payload = .error error ∧ error.request? = none := by
  unfold asked? at unasked
  cases readable : (fromText payload : Except LayoutError Envelope) with
  | error error =>
      rw [decode, readable]
      exact Or.inr ⟨_, rfl, rfl⟩
  | ok read =>
      simp only [readable] at unasked
      rw [decode, readable]
      simp only [ofEnvelope]
      split
      · rename_i request
        rw [if_pos request, Option.map_eq_none_iff] at unasked
        rw [unasked]
        exact Or.inr ⟨.noCommand, rfl, rfl⟩
      · split
        · split
          · rename_i body _
            exact Or.inl ⟨body, rfl⟩
          · exact Or.inr ⟨_, rfl, rfl⟩
        · exact Or.inr ⟨_, rfl, rfl⟩
      · exact Or.inr ⟨_, rfl, rfl⟩

end ClientMessage

end Debuggee
