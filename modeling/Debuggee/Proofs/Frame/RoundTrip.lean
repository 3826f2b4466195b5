import Debuggee.Proofs.Frame.Line

/-!
Reading gives back what was written: each frame is read as its payload, whatever the payload holds,
and nothing behind the frame is touched.
-/

namespace Debuggee.Frame

open Bytes (ascii)

def lengthName : List Char :=
  ['C', 'o', 'n', 't', 'e', 'n', 't', '-', 'L', 'e', 'n', 'g', 't', 'h']

def lengthLine (length : Nat) : List Char :=
  lengthName ++ ':' :: ' ' :: Nat.toDigits 10 length

theorem isDecimal_iff {symbol : Char} :
    isDecimal symbol = true ↔ 48 ≤ symbol.toNat ∧ symbol.toNat ≤ 57 := by
  simp only [isDecimal, Bool.and_eq_true, decide_eq_true_eq, Char.le_def, UInt32.le_iff_toNat_le]
  exact Iff.rfl

theorem isDecimal_of_mem_toDigits {digit : Char} {number : Nat}
    (member : digit ∈ Nat.toDigits 10 number) : isDecimal digit = true := by
  have digits := Nat.isDigit_of_mem_toDigits (by decide) (by decide) member
  simp only [Char.isDigit, Bool.and_eq_true, decide_eq_true_eq, ge_iff_le,
    UInt32.le_iff_toNat_le] at digits
  exact isDecimal_iff.mpr digits

section Digits

variable {digits : List Char} (occupied : digits ≠ [])
variable (decimal : ∀ digit ∈ digits, isDecimal digit = true)

include occupied decimal

theorem length?_of_digits (fits : Nat.ofDigitChars 10 digits 0 < UInt64.size) :
    length? digits = some (Nat.ofDigitChars 10 digits 0) := by
  have unsigned : digits.head? ≠ some '+' := by
    intro plus
    have code := isDecimal_iff.mp (decimal '+' (List.mem_of_head? plus))
    simp at code
  have filled : digits.isEmpty = false := by
    simp [occupied]
  have numeral : digits.all isDecimal = true := List.all_eq_true.mpr decimal
  have value : digits.foldl (fun total digit => 10 * total + (digit.toNat - 48)) 0 =
      Nat.ofDigitChars 10 digits 0 := rfl
  simp only [length?, if_neg unsigned, filled, numeral, Bool.not_true, Bool.or_self,
    Bool.false_eq_true, if_false, value, if_pos fits]

theorem trimList_digits : Text.trimList digits = digits := by
  have sighted : ∀ digit ∈ digits, Text.isBlank digit = false := by
    intro digit member
    have code := isDecimal_iff.mp (decimal digit member)
    simp only [Text.isBlank, Bool.or_eq_false_iff, Bool.and_eq_false_iff, decide_eq_false_iff_not,
      beq_eq_false_iff_ne]
    omega
  have starts := List.head?_eq_some_head occupied
  have ends := List.getLast?_eq_some_getLast occupied
  exact Text.trimList_of_ends starts ends (sighted _ (List.head_mem occupied))
    (sighted _ (List.getLast_mem occupied))

theorem lineContent_digits (label : List Char) {ending : List Char}
    (ends : ∀ symbol ∈ ending, isLineEnd symbol = true) :
    lineContent (String.ofList (label ++ digits ++ ending)) = label ++ digits := by
  have code := isDecimal_iff.mp (decimal _ (List.getLast_mem occupied))
  have stays : isLineEnd (digits.getLast occupied) = false := by
    simp only [isLineEnd, Bool.or_eq_false_iff, beq_eq_false_iff_ne]
    constructor
    · intro same
      rw [same] at code
      simp at code
    · intro same
      rw [same] at code
      simp at code
  have split : label ++ digits = (label ++ digits.dropLast) ++ [digits.getLast occupied] := by
    rw [List.append_assoc, List.dropLast_concat_getLast occupied]
  rw [lineContent, String.toList_ofList, Text.trimEnd_append isLineEnd (label ++ digits) ends,
    split]
  exact Text.trimEnd_concat isLineEnd _ stays

end Digits

theorem length?_toDigits {number : Nat} (fits : number < UInt64.size) :
    length? (Nat.toDigits 10 number) = some number := by
  have value : Nat.ofDigitChars 10 (Nat.toDigits 10 number) 0 = number :=
    Nat.ofDigitChars_ten_toDigits
  have found := length?_of_digits Nat.toDigits_ne_nil
    (fun digit member => isDecimal_of_mem_toDigits member) (by rwa [value])
  rwa [value] at found

theorem lineContent_lengthLine (length : Nat) {ending : List Char}
    (ends : ∀ symbol ∈ ending, isLineEnd symbol = true) :
    lineContent (String.ofList (lengthLine length ++ ending)) = lengthLine length := by
  have split : lengthLine length = lengthName ++ [':', ' '] ++ Nat.toDigits 10 length := by
    simp [lengthLine]
  rw [split]
  exact lineContent_digits Nat.toDigits_ne_nil
    (fun digit member => isDecimal_of_mem_toDigits member) _ ends

theorem lengthName_lower : lengthName.map Char.toLower = lengthHeader := by
  have lower : lengthName.map Char.toLower =
      ['c', 'o', 'n', 't', 'e', 'n', 't', '-', 'l', 'e', 'n', 'g', 't', 'h'] := by decide
  have spelled : "content-length" = String.ofList
      ['c', 'o', 'n', 't', 'e', 'n', 't', '-', 'l', 'e', 'n', 'g', 't', 'h'] := by simp
  unfold lengthHeader
  rw [lower, spelled, String.toList_ofList]

theorem lengthValue?_named (value : List Char) :
    lengthValue? (lengthName ++ ':' :: value) = some (Text.trimList value) := by
  have named : ∀ symbol ∈ lengthName, (decide (symbol ≠ ':')) = true := by
    simp [lengthName]
  have after : (lengthName ++ ':' :: value).dropWhile (· ≠ ':') = ':' :: value := by
    rw [List.dropWhile_append_of_pos named, List.dropWhile_cons_of_neg (by simp)]
  have before : (lengthName ++ ':' :: value).takeWhile (· ≠ ':') = lengthName := by
    rw [List.takeWhile_append_of_pos named, List.takeWhile_cons_of_neg (by simp),
      List.append_nil]
  have trimmed : Text.trimList lengthName = lengthName := by decide
  simp only [lengthValue?, after, before, trimmed, lengthName_lower, if_true]

theorem lengthValue?_digits {digits : List Char} (occupied : digits ≠ [])
    (decimal : ∀ digit ∈ digits, isDecimal digit = true) :
    lengthValue? (lengthName ++ ':' :: ' ' :: digits) = some digits := by
  have dropped : (' ' :: digits).dropWhile Text.isBlank = digits.dropWhile Text.isBlank :=
    List.dropWhile_cons_of_pos (by decide)
  have trimmed : Text.trimList (' ' :: digits) = Text.trimList digits := by
    rw [Text.trimList, dropped, Text.trimList]
  rw [lengthValue?_named, trimmed, trimList_digits occupied decimal]

theorem lengthValue?_lengthLine (length : Nat) :
    lengthValue? (lengthLine length) = some (Nat.toDigits 10 length) :=
  lengthValue?_digits Nat.toDigits_ne_nil fun _ member => isDecimal_of_mem_toDigits member

theorem lengthLine_symbol {length : Nat} {symbol : Char} (member : symbol ∈ lengthLine length) :
    symbol.toNat < 128 ∧ symbol ≠ '\n' := by
  have named : ∀ other ∈ lengthName ++ [':', ' '], other.toNat < 128 ∧ other ≠ '\n' := by
    simp [lengthName]
  have split : lengthLine length = lengthName ++ [':', ' '] ++ Nat.toDigits 10 length := by
    simp [lengthLine]
  rw [split] at member
  rcases List.mem_append.mp member with label | digit
  · exact named symbol label
  · have code := isDecimal_iff.mp (isDecimal_of_mem_toDigits digit)
    refine ⟨by omega, ?_⟩
    intro same
    rw [same] at code
    simp at code

theorem firstLine_symbol {length : Nat} {symbol : Char}
    (member : symbol ∈ lengthLine length ++ ['\r']) : symbol.toNat < 128 ∧ symbol ≠ '\n' := by
  rcases List.mem_append.mp member with inside | last
  · exact lengthLine_symbol inside
  · rw [List.mem_singleton.mp last]
    decide

theorem head_eq (length : Nat) :
    head length = (lengthLine length ++ ['\r']).map ascii ++ newline ::
      (['\r'].map ascii ++ [newline]) := by
  have name : "Content-Length: " = String.ofList (lengthName ++ [':', ' ']) := by
    simp [lengthName]
  have ends : "\r\n\r\n" = String.ofList ['\r', '\n', '\r', '\n'] := by
    simp
  rw [head, name, ends, Bytes.ofString_ofList_of_ascii (by simp [lengthName]),
    Bytes.ofString_ofList_of_ascii (by simp)]
  simp [Bytes.ofNat, lengthLine, newline]

theorem lengthLine_short {length : Nat} (small : length ≤ maxPayload) :
    (lengthLine length ++ ['\r']).length < maxHeaderLine := by
  have digits : (Nat.toDigits 10 length).length ≤ 8 := by
    rw [Nat.length_toDigits_le_iff (by decide) (by decide)]
    simp only [maxPayload] at small
    omega
  simp only [lengthLine, lengthName, List.length_append, List.length_cons, List.length_nil,
    maxHeaderLine]
  omega

theorem readPayload_append (ending : Ending) {payload : Bytes} (rest : Bytes)
    (small : payload.length ≤ maxPayload) :
    readPayload ending payload.length (payload ++ rest) = .frame payload rest := by
  simp [readPayload, small]

/-- A frame is read as its payload, and the stream goes on right behind it. -/
theorem read_write (ending : Ending) {payload : Bytes} (rest : Bytes)
    (small : payload.length ≤ maxPayload) :
    read ending (write payload ++ rest) = .frame payload rest := by
  have stream : write payload ++ rest =
      (lengthLine payload.length ++ ['\r']).map ascii ++ newline ::
        (['\r'].map ascii ++ newline :: (payload ++ rest)) := by
    simp [write, head_eq]
  have lengthFound := nextLine_of_ascii ending (['\r'].map ascii ++ newline :: (payload ++ rest))
    (fun _ member => (firstLine_symbol member).1) (fun member => (firstLine_symbol member).2 rfl)
    (lengthLine_short small)
  have emptyFound : nextLine ending (['\r'].map ascii ++ newline :: (payload ++ rest)) =
      .line (String.ofList (['\r'] ++ ['\n'])) (payload ++ rest) :=
    nextLine_of_ascii ending (payload ++ rest) (by simp) (by simp) (by decide)
  have content : lineContent (String.ofList (lengthLine payload.length ++ ['\r'] ++ ['\n'])) =
      lengthLine payload.length := by
    rw [List.append_assoc]
    exact lineContent_lengthLine payload.length (by simp [isLineEnd])
  have occupied : lengthLine payload.length ≠ [] := by simp [lengthLine]
  have fits : payload.length < UInt64.size := Nat.lt_of_le_of_lt small (by decide)
  have blank : lineContent (String.ofList (['\r'] ++ ['\n'])) = [] := by
    rw [lineContent, String.toList_ofList]
    decide
  rw [read, stream, readFrom_of_length lengthFound (by rwa [content])
    (by rw [content, lengthValue?_lengthLine]) (length?_toDigits fits),
    readFrom_of_empty emptyFound blank]
  exact readPayload_append ending rest small

def readMany (ending : Ending) : Nat → Bytes → Option (List Bytes × Bytes)
  | 0, octets => some ([], octets)
  | count + 1, octets =>
    match read ending octets with
    | .frame payload rest =>
      (readMany ending count rest).map fun (payloads, left) => (payload :: payloads, left)
    | _ => none

/--
Reading as many frames as were written gives the payloads in their order and stops right behind
them, so that all that is read next is read as if the stream had begun there.
-/
theorem readMany_write (ending : Ending) (payloads : List Bytes) (rest : Bytes)
    (small : ∀ payload ∈ payloads, payload.length ≤ maxPayload) :
    readMany ending payloads.length (payloads.flatMap write ++ rest) = some (payloads, rest) ∧
      ∀ more, readMany ending (payloads.length + more) (payloads.flatMap write ++ rest) =
        (readMany ending more rest).map fun (later, left) => (payloads ++ later, left) := by
  induction payloads with
  | nil =>
      refine ⟨rfl, ?_⟩
      intro more
      simp
  | cons payload payloads ih =>
      have first := read_write ending (payloads.flatMap write ++ rest) (small payload (by simp))
      have stream : (payload :: payloads).flatMap write ++ rest =
          write payload ++ (payloads.flatMap write ++ rest) := by
        rw [List.flatMap_cons, List.append_assoc]
      obtain ⟨whole, further⟩ := ih fun other member => small other (List.mem_cons_of_mem _ member)
      rw [stream]
      constructor
      · simp only [List.length_cons, readMany, first, whole, Option.map_some]
      · intro more
        rw [List.length_cons, Nat.add_right_comm]
        simp only [readMany, first, further more, Option.map_map]
        rfl

theorem readMany_write_of_heads :
    (∀ payload ∈ [[], head 9, [newline]], payload.length ≤ maxPayload) ∧
    readMany .closed 3 ([[], head 9, [newline]].flatMap write ++ [newline]) =
      some ([[], head 9, [newline]], [newline]) :=
  ⟨by decide, (readMany_write .closed [[], head 9, [newline]] [newline] (by decide)).1⟩

end Debuggee.Frame
