import Debuggee.Bytes
import Debuggee.Text.Blank
import Debuggee.Text.Quoted

/-!
Frames: payloads on a stream of octets, each after a head of lines that tells its length. Other
header lines are ignored, the last length counts, and an empty line ends the head.
-/

namespace Debuggee.Frame

open Bytes (ascii)

/-- The longest header line, its end included. -/
def maxHeaderLine : Nat := 8192

def maxPayload : Nat := 16777216

inductive FrameError where
  | headerTooLong
  | headerNotText
  | noLength
  | invalidLength (value : String)
  | tooLarge (length : Nat)
  | truncated
  | broken (reason : String)
  deriving DecidableEq, Repr

def FrameError.message : FrameError → String
  | .headerTooLong => "DAP header line exceeds " ++ toString maxHeaderLine ++ " bytes"
  | .headerNotText => "DAP header line is not UTF-8"
  | .noLength => "DAP message missing Content-Length header"
  | .invalidLength value => "invalid Content-Length " ++ Text.quoted value
  | .tooLarge length =>
    "DAP message Content-Length " ++ toString length ++ " exceeds " ++ toString maxPayload ++
      " bytes"
  | .truncated => "connection closed inside a DAP frame"
  | .broken reason => reason

inductive Ending where
  | closed
  | broken (reason : String)
  deriving DecidableEq, Repr

def Ending.error : Ending → FrameError
  | .closed => .truncated
  | .broken reason => .broken reason

inductive Reading where
  | finished
  | frame (payload rest : Bytes)
  | failed (error : FrameError) (rest : Bytes)
  deriving DecidableEq, Repr

def newline : UInt8 := ascii '\n'

/-- The octets up to the first newline, which is included, but no more than `limit`. -/
def splitLine : Nat → Bytes → Bytes × Bytes
  | 0, octets => ([], octets)
  | _ + 1, [] => ([], [])
  | limit + 1, octet :: octets =>
    if octet = newline then ([octet], octets)
    else
      let (line, rest) := splitLine limit octets
      (octet :: line, rest)

inductive HeaderLine where
  | none
  | line (text : String) (rest : Bytes)
  | failed (error : FrameError) (rest : Bytes)

def nextLine (ending : Ending) (octets : Bytes) : HeaderLine :=
  let (line, rest) := splitLine (maxHeaderLine + 1) octets
  if maxHeaderLine < line.length then .failed .headerTooLong rest
  else if line.getLast? = some newline ∨ ending = .closed then
    if line.isEmpty then .none
    else
      match Bytes.text? line with
      | some text => .line text rest
      | none => .failed .headerNotText rest
  else .failed ending.error rest

def isLineEnd (symbol : Char) : Bool :=
  symbol == '\r' || symbol == '\n'

def lineContent (line : String) : List Char :=
  Text.trimEnd isLineEnd line.toList

def lengthHeader : List Char := "content-length".toList

def lengthValue? (line : List Char) : Option (List Char) :=
  match line.dropWhile (· ≠ ':') with
  | [] => none
  | _ :: value =>
    let name := Text.trimList (line.takeWhile (· ≠ ':'))
    if name.map Char.toLower = lengthHeader then some (Text.trimList value) else none

def isDecimal (symbol : Char) : Bool :=
  '0' ≤ symbol && symbol ≤ '9'

/-- Decimal digits, after a plus sign or without one, whose value fits sixty-four bits. -/
def length? (value : List Char) : Option Nat :=
  let digits := if value.head? = some '+' then value.tail else value
  if digits.isEmpty || !digits.all isDecimal then none
  else
    let number := digits.foldl (fun total digit => 10 * total + (digit.toNat - 48)) 0
    if number < UInt64.size then some number else none

def readPayload (ending : Ending) (length : Nat) (octets : Bytes) : Reading :=
  if maxPayload < length then .failed (.tooLarge length) octets
  else
    let payload := octets.take length
    if payload.length < length then .failed ending.error []
    else .frame payload (octets.drop length)

theorem splitLine_append (limit : Nat) (octets : Bytes) :
    (splitLine limit octets).1 ++ (splitLine limit octets).2 = octets := by
  induction limit generalizing octets with
  | zero => simp [splitLine]
  | succ limit ih =>
      cases octets with
      | nil => simp [splitLine]
      | cons octet octets =>
          rw [splitLine]
          split
          · simp
          · simpa using ih octets

theorem nextLine_length {ending : Ending} {octets rest : Bytes} {text : String}
    (found : nextLine ending octets = .line text rest) : rest.length < octets.length := by
  unfold nextLine at found
  have whole := congrArg List.length (splitLine_append (maxHeaderLine + 1) octets)
  simp only [List.length_append] at whole
  simp only at found
  split at found
  · simp at found
  · split at found
    · split at found
      · simp at found
      next occupied =>
        split at found
        · injection found with _ same
          subst same
          have positive : 0 < (splitLine (maxHeaderLine + 1) octets).1.length :=
            List.length_pos_iff.mpr (by simpa using occupied)
          omega
        · simp at found
    · simp at found

/--
Reads the rest of a head and the payload. `started` tells whether some of the head has been read,
and `length?` is the length it gave.
-/
def readFrom (ending : Ending) (started : Bool) (given : Option Nat) (octets : Bytes) : Reading :=
  match _ : nextLine ending octets with
  | .none => if started then .failed ending.error [] else .finished
  | .failed error rest => .failed error rest
  | .line text rest =>
    let line := lineContent text
    if line.isEmpty then
      match given with
      | none => .failed .noLength rest
      | some length => readPayload ending length rest
    else
      match lengthValue? line with
      | none => readFrom ending true given rest
      | some value =>
        match length? value with
        | none => .failed (.invalidLength (String.ofList value)) rest
        | some length => readFrom ending true (some length) rest
termination_by octets.length
decreasing_by all_goals exact nextLine_length (by assumption)

def read (ending : Ending) (octets : Bytes) : Reading :=
  readFrom ending false none octets

theorem readPayload_frame_length {ending : Ending} {length : Nat} {octets payload rest : Bytes}
    (found : readPayload ending length octets = .frame payload rest) :
    rest.length ≤ octets.length := by
  unfold readPayload at found
  split at found
  · simp at found
  · simp only at found
    split at found
    · simp at found
    · injection found with _ same
      rw [← same, List.length_drop]
      omega

theorem readFrom_frame_length {ending : Ending} {started : Bool} {given : Option Nat}
    {octets payload rest : Bytes}
    (found : readFrom ending started given octets = .frame payload rest) :
    rest.length < octets.length := by
  fun_induction readFrom ending started given octets with
  | case1 => simp at found
  | case2 => simp at found
  | case3 => simp at found
  | case4 => simp at found
  | case5 _ _ _ _ next _ _ length =>
    have later := nextLine_length next
    have inside := readPayload_frame_length found
    omega
  | case6 _ _ _ _ _ next _ _ _ read =>
    have later := nextLine_length next
    have inside := read found
    omega
  | case7 => simp at found
  | case8 _ _ _ _ _ next _ _ _ _ _ _ read =>
    have later := nextLine_length next
    have inside := read found
    omega

theorem read_frame_length {ending : Ending} {octets payload rest : Bytes}
    (found : read ending octets = .frame payload rest) : rest.length < octets.length :=
  readFrom_frame_length found

def head (length : Nat) : Bytes :=
  Bytes.ofString "Content-Length: " ++ Bytes.ofNat length ++ Bytes.ofString "\r\n\r\n"

def write (payload : Bytes) : Bytes :=
  head payload.length ++ payload

inductive WriteError where
  | full
  deriving DecidableEq, Repr

def WriteError.message : WriteError → String
  | .full => "failed to write whole buffer"

/-- Writes a frame where there is room for `capacity` octets; what fits is written in any case. -/
def writeBounded (capacity : Nat) (payload : Bytes) : Bytes × Except WriteError Unit :=
  let frame := write payload
  (frame.take capacity, if frame.length ≤ capacity then .ok () else .error .full)

end Debuggee.Frame
