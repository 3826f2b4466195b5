import Debuggee.Proofs.Text.Trim
import Debuggee.Protocol.Frame
import Mathlib

/-!
The lines of a head of a frame: how one is found on a stream, and what the reader does with it. Only
seven-bit characters occur in the lines that are written, and these are octets of their own.
-/

namespace Debuggee

namespace Bytes

theorem utf8EncodeChar_of_ascii {symbol : Char} (seven : symbol.toNat < 128) :
    String.utf8EncodeChar symbol = [ascii symbol] := by
  have code : symbol.val ≤ 127 := by
    rw [UInt32.le_iff_toNat_le]
    exact Nat.le_of_lt_succ seven
  have size : symbol.utf8Size = 1 := if_pos code
  rw [String.utf8EncodeChar_eq_singleton size]
  rfl

theorem ofString_ofList_of_ascii {symbols : List Char}
    (seven : ∀ symbol ∈ symbols, symbol.toNat < 128) :
    ofString (String.ofList symbols) = symbols.map ascii := by
  have encoded : ofString (String.ofList symbols) = symbols.flatMap String.utf8EncodeChar := by
    simp [ofString, List.utf8Encode]
  rw [encoded]
  induction symbols with
  | nil => rfl
  | cons symbol symbols ih =>
      have first := utf8EncodeChar_of_ascii (seven symbol (by simp))
      have later : ∀ other ∈ symbols, other.toNat < 128 :=
        fun other member => seven other (List.mem_cons_of_mem _ member)
      rw [List.flatMap_cons, first, ih later (by simp [ofString, List.utf8Encode])]
      rfl

theorem text?_map_ascii {symbols : List Char} (seven : ∀ symbol ∈ symbols, symbol.toNat < 128) :
    text? (symbols.map ascii) = some (String.ofList symbols) := by
  rw [← ofString_ofList_of_ascii seven, text?_ofString]

theorem ascii_injective {first second : Char} (firstSeven : first.toNat < 128)
    (secondSeven : second.toNat < 128) (same : ascii first = ascii second) : first = second := by
  have codes := congrArg UInt8.toNat same
  simp only [ascii, Nat.toUInt8_eq, UInt8.toNat_ofNat'] at codes
  apply Char.ext
  apply UInt32.toNat_inj.mp
  simp only [Char.toNat] at *
  omega

end Bytes

namespace Frame

open Bytes (ascii)

theorem splitLine_of_newline {limit : Nat} {line : Bytes} (rest : Bytes)
    (plain : newline ∉ line) (short : line.length < limit) :
    splitLine limit (line ++ newline :: rest) = (line ++ [newline], rest) := by
  induction line generalizing limit with
  | nil =>
      cases limit with
      | zero => simp at short
      | succ limit => simp [splitLine]
  | cons octet line ih =>
      cases limit with
      | zero => simp at short
      | succ limit =>
          simp only [List.mem_cons, not_or] at plain
          rw [List.cons_append, splitLine, if_neg (Ne.symm plain.1),
            ih plain.2 (by simpa using short)]
          rfl

theorem nextLine_of_ascii (ending : Ending) {symbols : List Char} (rest : Bytes)
    (seven : ∀ symbol ∈ symbols, symbol.toNat < 128) (plain : '\n' ∉ symbols)
    (short : symbols.length < maxHeaderLine) :
    nextLine ending (symbols.map ascii ++ newline :: rest) =
      .line (String.ofList (symbols ++ ['\n'])) rest := by
  have noNewline : newline ∉ symbols.map ascii := by
    intro member
    obtain ⟨symbol, belongs, same⟩ := List.mem_map.mp member
    have equal := Bytes.ascii_injective (seven symbol belongs) (by decide) same
    exact plain (equal ▸ belongs)
  have found : splitLine (maxHeaderLine + 1) (symbols.map ascii ++ newline :: rest) =
      (symbols.map ascii ++ [newline], rest) :=
    splitLine_of_newline rest noNewline (by rw [List.length_map]; omega)
  have spelled : Bytes.text? (symbols.map ascii ++ [newline]) =
      some (String.ofList (symbols ++ ['\n'])) := by
    rw [← Bytes.text?_map_ascii]
    · rw [List.map_append]
      rfl
    · intro symbol member
      rcases List.mem_append.mp member with belongs | last
      · exact seven symbol belongs
      · rw [List.mem_singleton.mp last]
        decide
  have fits : ¬ maxHeaderLine < (symbols.map ascii ++ [newline]).length := by
    rw [List.length_append, List.length_map, List.length_singleton]
    omega
  have occupied : (symbols.map ascii ++ [newline]).isEmpty = false := by simp
  simp only [nextLine, found, if_neg fits, List.getLast?_append, List.getLast?_singleton,
    Option.some_or, true_or, if_true, occupied, Bool.false_eq_true, if_false, spelled]

section Step

variable {ending : Ending} {started : Bool} {given : Option Nat} {octets rest : Bytes}
variable {text : String}

theorem readFrom_of_line (found : nextLine ending octets = .line text rest) :
    readFrom ending started given octets =
      if (lineContent text).isEmpty then
        match given with
        | none => .failed .noLength rest
        | some length => readPayload ending length rest
      else
        match lengthValue? (lineContent text) with
        | none => readFrom ending true given rest
        | some value =>
          match length? value with
          | none => .failed (.invalidLength (String.ofList value)) rest
          | some length => readFrom ending true (some length) rest := by
  rw [readFrom]
  split
  · rename_i missing
    rw [found] at missing
    contradiction
  · rename_i failed
    rw [found] at failed
    contradiction
  · rename_i other otherRest same
    rw [found, HeaderLine.line.injEq] at same
    obtain ⟨rfl, rfl⟩ := same
    rfl

theorem readFrom_of_empty {length : Nat} (found : nextLine ending octets = .line text rest)
    (blank : lineContent text = []) :
    readFrom ending started (some length) octets = readPayload ending length rest := by
  rw [readFrom_of_line found, blank]
  rfl

theorem readFrom_of_other (found : nextLine ending octets = .line text rest)
    (occupied : lineContent text ≠ []) (silent : lengthValue? (lineContent text) = none) :
    readFrom ending started given octets = readFrom ending true given rest := by
  simp only [readFrom_of_line found, List.isEmpty_iff, occupied, if_false, silent]

theorem readFrom_of_length {value : List Char} {length : Nat}
    (found : nextLine ending octets = .line text rest) (occupied : lineContent text ≠ [])
    (told : lengthValue? (lineContent text) = some value) (fits : length? value = some length) :
    readFrom ending started given octets = readFrom ending true (some length) rest := by
  simp only [readFrom_of_line found, List.isEmpty_iff, occupied, if_false, told, fits]

theorem readFrom_of_invalid {value : List Char}
    (found : nextLine ending octets = .line text rest) (occupied : lineContent text ≠ [])
    (told : lengthValue? (lineContent text) = some value) (unfit : length? value = none) :
    readFrom ending started given octets = .failed (.invalidLength (String.ofList value)) rest := by
  simp only [readFrom_of_line found, List.isEmpty_iff, occupied, if_false, told, unfit]

end Step

end Frame

end Debuggee
