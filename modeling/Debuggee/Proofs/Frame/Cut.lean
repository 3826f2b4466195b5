import Debuggee.Proofs.Frame.RoundTrip

/-!
Streams that end inside a frame. Nearly everywhere the reader reports that the frame is cut off; it
does not where the head breaks off in front of the digits of the length, and where the last octet of
an empty frame is missing.
-/

namespace Debuggee.Frame

open Bytes (ascii)

section Last

theorem splitLine_of_plain {limit : Nat} {line : Bytes} (plain : newline ∉ line)
    (short : line.length ≤ limit) : splitLine limit line = (line, []) := by
  induction line generalizing limit with
  | nil =>
      cases limit with
      | zero => rfl
      | succ limit => rfl
  | cons octet line ih =>
      cases limit with
      | zero => simp at short
      | succ limit =>
          simp only [List.mem_cons, not_or] at plain
          rw [splitLine, if_neg (Ne.symm plain.1), ih plain.2 (by simpa using short)]

/-- What is left of a line where the stream has ended is a line too. -/
theorem nextLine_of_last {symbols : List Char} (occupied : symbols ≠ [])
    (seven : ∀ symbol ∈ symbols, symbol.toNat < 128) (plain : '\n' ∉ symbols)
    (short : symbols.length ≤ maxHeaderLine) :
    nextLine .closed (symbols.map ascii) = .line (String.ofList symbols) [] := by
  have noNewline : newline ∉ symbols.map ascii := by
    intro member
    obtain ⟨symbol, belongs, same⟩ := List.mem_map.mp member
    have equal := Bytes.ascii_injective (seven symbol belongs) (by decide) same
    exact plain (equal ▸ belongs)
  have found : splitLine (maxHeaderLine + 1) (symbols.map ascii) = (symbols.map ascii, []) :=
    splitLine_of_plain noNewline (by rw [List.length_map]; omega)
  have fits : ¬ maxHeaderLine < (symbols.map ascii).length := by
    rw [List.length_map]
    omega
  have filled : (symbols.map ascii).isEmpty = false := by
    simp [occupied]
  simp only [nextLine, found, if_neg fits, or_true, if_true, filled, Bool.false_eq_true, if_false,
    Bytes.text?_map_ascii seven]

theorem readFrom_of_nothing (started : Bool) (given : Option Nat) :
    readFrom .closed started given [] = if started then .failed .truncated [] else .finished := by
  have missing : nextLine .closed [] = .none := rfl
  rw [readFrom]
  split
  · rfl
  · rename_i failed
    rw [missing] at failed
    contradiction
  · rename_i found
    rw [missing] at found
    contradiction

variable {symbols : List Char} (occupied : lineContent (String.ofList symbols) ≠ [])
variable {octets : Bytes} (found : nextLine .closed octets = .line (String.ofList symbols) [])

include occupied found

theorem read_of_other (silent : lengthValue? (lineContent (String.ofList symbols)) = none) :
    read .closed octets = .failed .truncated [] := by
  rw [read, readFrom_of_other found occupied silent, readFrom_of_nothing]
  rfl

theorem read_of_length {value : List Char} {length : Nat}
    (told : lengthValue? (lineContent (String.ofList symbols)) = some value)
    (fits : length? value = some length) : read .closed octets = .failed .truncated [] := by
  rw [read, readFrom_of_length found occupied told fits, readFrom_of_nothing]
  rfl

end Last

section Head

variable {length count : Nat}

theorem nextLine_take (small : length ≤ maxPayload) (positive : 0 < count) :
    nextLine .closed (((lengthLine length ++ ['\r']).take count).map ascii) =
      .line (String.ofList ((lengthLine length ++ ['\r']).take count)) [] := by
  have short := lengthLine_short small
  apply nextLine_of_last
  · apply List.ne_nil_of_length_pos
    rw [List.length_take, List.length_append, List.length_singleton]
    omega
  · intro symbol member
    exact (firstLine_symbol (List.mem_of_mem_take member)).1
  · intro member
    exact (firstLine_symbol (List.mem_of_mem_take member)).2 rfl
  · rw [List.length_take]
    omega

theorem take_firstLine (inside : count ≤ lengthName.length + 2) :
    (lengthLine length ++ ['\r']).take count = (lengthName ++ [':', ' ']).take count := by
  have split : lengthLine length ++ ['\r'] =
      lengthName ++ [':', ' '] ++ (Nat.toDigits 10 length ++ ['\r']) := by
    simp [lengthLine]
  rw [split]
  exact List.take_append_of_le_length (by simpa using inside)

theorem read_take_name (small : length ≤ maxPayload) (positive : 0 < count)
    (inside : count ≤ lengthName.length) :
    read .closed (((lengthLine length ++ ['\r']).take count).map ascii) =
      .failed .truncated [] := by
  have found := nextLine_take small positive
  have cut : (lengthLine length ++ ['\r']).take count = lengthName.take count := by
    rw [take_firstLine (by omega)]
    exact List.take_append_of_le_length inside
  have unended : ∀ symbol ∈ lengthName, isLineEnd symbol = false ∧ symbol ≠ ':' := by
    simp [lengthName, isLineEnd]
  have nonempty : lengthName.take count ≠ [] := by
    apply List.ne_nil_of_length_pos
    rw [List.length_take]
    omega
  have content : lineContent (String.ofList (lengthName.take count)) = lengthName.take count := by
    have last := List.mem_of_mem_take (List.getLast_mem nonempty)
    rw [lineContent, String.toList_ofList, ← List.dropLast_concat_getLast nonempty]
    exact Text.trimEnd_concat isLineEnd _ (unended _ last).1
  rw [cut] at found ⊢
  apply read_of_other (by rwa [content]) found
  have noColon : (lengthName.take count).dropWhile (· ≠ ':') = [] := by
    rw [List.dropWhile_eq_nil_iff]
    intro symbol member
    simpa using (unended symbol (List.mem_of_mem_take member)).2
  rw [content, lengthValue?, noColon]

theorem read_take_label (small : length ≤ maxPayload)
    (inside : count = lengthName.length + 1 ∨ count = lengthName.length + 2) :
    read .closed (((lengthLine length ++ ['\r']).take count).map ascii) =
      .failed (.invalidLength "") [] := by
  have positive : 0 < count := by omega
  have found := nextLine_take small positive
  have blank : ∃ blanks, (lengthLine length ++ ['\r']).take count = lengthName ++ ':' :: blanks ∧
      Text.trimEnd isLineEnd (lengthName ++ ':' :: blanks) = lengthName ++ ':' :: blanks ∧
      Text.trimList blanks = [] := by
    rcases inside with colon | space
    · exact ⟨[], by rw [take_firstLine (by omega), colon]; rfl, by decide, by decide⟩
    · exact ⟨[' '], by rw [take_firstLine (by omega), space]; rfl, by decide, by decide⟩
  obtain ⟨blanks, cut, untrimmed, nothing⟩ := blank
  have content : lineContent (String.ofList (lengthName ++ ':' :: blanks)) =
      lengthName ++ ':' :: blanks := by
    rw [lineContent, String.toList_ofList, untrimmed]
  rw [cut] at found ⊢
  rw [read, readFrom_of_invalid found (by rw [content]; simp)
    (by rw [content, lengthValue?_named, nothing]) rfl]

theorem ofDigitChars_take_le (count : Nat) (digits : List Char) :
    Nat.ofDigitChars 10 (digits.take count) 0 ≤ Nat.ofDigitChars 10 digits 0 := by
  have grows : ∀ (later : List Char) (start : Nat), start ≤ Nat.ofDigitChars 10 later start := by
    intro later
    induction later with
    | nil => exact fun start => Nat.le_refl start
    | cons digit later ih =>
        intro start
        have step := ih (10 * start + (digit.toNat - '0'.toNat))
        have unfolded : Nat.ofDigitChars 10 (digit :: later) start =
            Nat.ofDigitChars 10 later (10 * start + (digit.toNat - '0'.toNat)) := rfl
        omega
  conv => rhs; rw [← List.take_append_drop count digits, Nat.ofDigitChars_append]
  exact grows (digits.drop count) _

theorem read_take_digits (small : length ≤ maxPayload) (label : lengthName.length + 2 < count) :
    read .closed (((lengthLine length ++ ['\r']).take count).map ascii) =
      .failed .truncated [] := by
  have positive : 0 < count := by omega
  have found := nextLine_take small positive
  generalize shown : (Nat.toDigits 10 length).take (count - (lengthName.length + 2)) = digits
  have split : (lengthLine length ++ ['\r']).take count = lengthName ++ [':', ' '] ++ digits ++
      ['\r'].take (count - (lengthLine length).length) := by
    have name : lengthLine length = (lengthName ++ [':', ' ']) ++ Nat.toDigits 10 length := by
      simp [lengthLine]
    rw [List.take_append, ← shown]
    congr 1
    rw [name, List.take_append, List.take_of_length_le (by simp; omega)]
    simp
  have occupied : digits ≠ [] := by
    rw [← shown]
    apply List.ne_nil_of_length_pos
    have written : 0 < (Nat.toDigits 10 length).length :=
      List.length_pos_of_ne_nil Nat.toDigits_ne_nil
    rw [List.length_take]
    omega
  have decimal : ∀ digit ∈ digits, isDecimal digit = true := by
    intro digit member
    rw [← shown] at member
    exact isDecimal_of_mem_toDigits (List.mem_of_mem_take member)
  have ends : ∀ symbol ∈ ['\r'].take (count - (lengthLine length).length),
      isLineEnd symbol = true := by
    intro symbol member
    rw [List.mem_singleton.mp (List.mem_of_mem_take member)]
    rfl
  have content := lineContent_digits occupied decimal (lengthName ++ [':', ' ']) ends
  have told : lengthValue? (lengthName ++ [':', ' '] ++ digits) = some digits := by
    rw [List.append_assoc]
    exact lengthValue?_digits occupied decimal
  have fits : Nat.ofDigitChars 10 digits 0 < UInt64.size := by
    have whole : Nat.ofDigitChars 10 (Nat.toDigits 10 length) 0 = length :=
      Nat.ofDigitChars_ten_toDigits
    have part := ofDigitChars_take_le (count - (lengthName.length + 2)) (Nat.toDigits 10 length)
    rw [shown, whole] at part
    exact Nat.lt_of_le_of_lt (Nat.le_trans part small) (by decide)
  rw [split] at found ⊢
  exact read_of_length (by rw [content]; simp) found (by rw [content, told])
    (length?_of_digits occupied decimal fits)

end Head

section Whole

variable {payload : Bytes} {count : Nat}

theorem write_eq (payload : Bytes) :
    write payload = (lengthLine payload.length ++ ['\r']).map ascii ++ newline ::
      (['\r'].map ascii ++ newline :: payload) := by
  simp [write, head_eq]

theorem write_length (payload : Bytes) :
    (write payload).length = (lengthLine payload.length).length + 4 + payload.length := by
  simp only [write_eq, List.length_append, List.length_map, List.length_cons, List.length_nil]
  omega

theorem take_write_of_le (inside : count ≤ (lengthLine payload.length).length + 1) :
    (write payload).take count = ((lengthLine payload.length ++ ['\r']).take count).map ascii := by
  rw [write_eq, List.take_append_of_le_length, List.map_take]
  rw [List.length_map, List.length_append, List.length_singleton]
  exact inside

theorem read_take_beyond (small : payload.length ≤ maxPayload)
    (beyond : (lengthLine payload.length).length + 1 < count) :
    read .closed ((write payload).take count) =
      readFrom .closed true (some payload.length)
        ((['\r'].map ascii ++ newline :: payload).take
          (count - ((lengthLine payload.length).length + 2))) := by
  have lines : ((lengthLine payload.length ++ ['\r']).map ascii).length =
      (lengthLine payload.length).length + 1 := by
    rw [List.length_map, List.length_append, List.length_singleton]
  obtain ⟨more, total⟩ : ∃ more, count = (lengthLine payload.length).length + 1 + (more + 1) :=
    ⟨count - ((lengthLine payload.length).length + 2), by omega⟩
  have cut : (write payload).take count =
      (lengthLine payload.length ++ ['\r']).map ascii ++ newline ::
        (['\r'].map ascii ++ newline :: payload).take more := by
    rw [write_eq, List.take_append, List.take_of_length_le (by omega), lines, total,
      Nat.add_sub_cancel_left, List.take_succ_cons]
  have later : count - ((lengthLine payload.length).length + 2) = more := by omega
  have found := nextLine_of_ascii .closed ((['\r'].map ascii ++ newline :: payload).take more)
    (fun _ member => (firstLine_symbol member).1) (fun member => (firstLine_symbol member).2 rfl)
    (lengthLine_short small)
  have content : lineContent (String.ofList (lengthLine payload.length ++ ['\r'] ++ ['\n'])) =
      lengthLine payload.length := by
    rw [List.append_assoc]
    exact lineContent_lengthLine payload.length (by simp [isLineEnd])
  have fits : payload.length < UInt64.size := Nat.lt_of_le_of_lt small (by decide)
  rw [cut, later, read, readFrom_of_length found (by rw [content]; simp [lengthLine])
    (by rw [content, lengthValue?_lengthLine]) (length?_toDigits fits)]

/-- A lone carriage return at the end of a stream is an empty line already. -/
theorem readFrom_take_ending (length : Nat) (positive : 0 < count) :
    readFrom .closed true (some length) ((['\r'].map ascii ++ newline :: payload).take count) =
      readPayload .closed length (payload.take (count - 2)) := by
  have blank : ∀ ending ∈ [['\r'], ['\r', '\n']], lineContent (String.ofList ending) = [] := by
    simp [lineContent, Text.trimEnd, isLineEnd]
  obtain first | ⟨more, total⟩ : count = 1 ∨ ∃ more, count = more + 2 := by
    rcases Nat.lt_or_ge count 2 with few | many
    · exact Or.inl (by omega)
    · exact Or.inr ⟨count - 2, by omega⟩
  · have found : nextLine .closed (['\r'].map ascii) = .line (String.ofList ['\r']) [] :=
      nextLine_of_last (by simp) (by simp) (by simp) (by decide)
    rw [first]
    exact readFrom_of_empty found (blank _ (by simp))
  · have found : nextLine .closed (['\r'].map ascii ++ newline :: payload.take more) =
        .line (String.ofList (['\r'] ++ ['\n'])) (payload.take more) :=
      nextLine_of_ascii .closed (payload.take more) (by simp) (by simp) (by decide)
    rw [total]
    exact readFrom_of_empty found (blank _ (by simp))

theorem readPayload_take (small : payload.length ≤ maxPayload) :
    readPayload .closed payload.length (payload.take count) =
      if count < payload.length then .failed .truncated [] else .frame payload [] := by
  have fits : ¬ maxPayload < payload.length := by omega
  by_cases short : count < payload.length
  · have missing : ((payload.take count).take payload.length).length < payload.length := by
      simp only [List.length_take]
      omega
    simp only [readPayload, if_neg fits, if_pos missing, if_pos short]
    rfl
  · have whole : payload.take count = payload := List.take_of_length_le (by omega)
    rw [whole, if_neg short]
    simpa using readPayload_append .closed [] small

end Whole

/--
What is read from the first octets of a frame where the stream ends behind them. The frame is
reported as cut off unless the stream ends between the colon and the digits of the length, or the
frame is empty and lacks its last octet only.
-/
theorem read_take_write (payload : Bytes) (small : payload.length ≤ maxPayload) (count : Nat) :
    read .closed ((write payload).take count) =
      if count = 0 then .finished
      else if count = lengthName.length + 1 ∨ count = lengthName.length + 2 then
        .failed (.invalidLength "") []
      else if count < (write payload).length ∧
          ¬ (payload = [] ∧ count + 1 = (write payload).length) then
        .failed .truncated []
      else .frame payload [] := by
  have written : lengthName.length + 2 < (lengthLine payload.length).length := by
    have digits : 0 < (Nat.toDigits 10 payload.length).length :=
      List.length_pos_of_ne_nil Nat.toDigits_ne_nil
    simp only [lengthLine, List.length_append, List.length_cons]
    omega
  have size := write_length payload
  split
  · rename_i none
    rw [none, List.take_zero, read, readFrom_of_nothing]
    rfl
  · split
    · rename_i label
      rw [take_write_of_le (by omega)]
      exact read_take_label small label
    · by_cases inside : count ≤ (lengthLine payload.length).length + 1
      · rw [take_write_of_le inside, if_pos ⟨by omega, by omega⟩]
        by_cases name : count ≤ lengthName.length
        · exact read_take_name small (by omega) name
        · exact read_take_digits small (by omega)
      · rw [read_take_beyond small (by omega)]
        by_cases ended : count = (lengthLine payload.length).length + 2
        · rw [if_pos ⟨by omega, by omega⟩, ended, Nat.sub_self, List.take_zero, readFrom_of_nothing]
          rfl
        · rw [readFrom_take_ending payload.length (by omega), readPayload_take small]
          have empty : payload = [] ↔ payload.length = 0 := List.length_eq_zero_iff.symm
          congr 1
          simp only [empty, eq_iff_iff]
          omega

theorem read_take_write_of_label :
    [ascii 'x'].length ≤ maxPayload ∧
      read .closed ((write [ascii 'x']).take 16) = .failed (.invalidLength "") [] :=
  ⟨by decide, read_take_write [ascii 'x'] (by decide) 16⟩

theorem read_take_write_unnoticed :
    16 < (write []).length ∧ read .closed ((write []).take 16) = .failed (.invalidLength "") [] ∧
      20 < (write []).length ∧ read .closed ((write []).take 20) = .frame [] [] := by
  have label : read .closed ((write []).take 16) = .failed (.invalidLength "") [] := by
    rw [take_write_of_le (by decide)]
    exact read_take_label (Nat.zero_le _) (Or.inr rfl)
  have ending : read .closed ((write []).take 20) = .frame [] [] := by
    have empty : ([] : Bytes).length ≤ maxPayload := Nat.zero_le _
    rw [read_take_beyond empty (by decide), readFrom_take_ending _ (by decide)]
    exact readPayload_take empty
  exact ⟨by decide, label, by decide, ending⟩

end Debuggee.Frame
