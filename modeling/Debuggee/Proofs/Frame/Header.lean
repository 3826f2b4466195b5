import Debuggee.Proofs.Frame.RoundTrip

/-!
What a header line says. A line names the length of the payload in front of its first colon, and
what stands behind the colon is the value; white space around either does not count.
-/

namespace Debuggee

namespace Frame

open Bytes (ascii)

/-- The number that a value stands for: decimal digits, after a plus sign or without one. -/
def Denotes (value : List Char) (number : Nat) : Prop :=
  ∃ sign digits, value = sign ++ digits ∧ (sign = [] ∨ sign = ['+']) ∧ digits ≠ [] ∧
    (∀ digit ∈ digits, '0' ≤ digit ∧ digit ≤ '9') ∧
    number = Nat.ofDigitChars 10 digits 0 ∧ number < 2 ^ 64

def Names (line value : List Char) : Prop :=
  ∃ before name after, line = before ++ ':' :: after ∧ ':' ∉ before ∧
    Text.Trimmed before name ∧ name.map Char.toLower = lengthHeader ∧ Text.Trimmed after value

theorem length?_eq_some_iff {value : List Char} {number : Nat} :
    length? value = some number ↔ Denotes value number := by
  have size : UInt64.size = 2 ^ 64 := rfl
  constructor
  · intro found
    have signed : ∃ sign, value = sign ++ (if value.head? = some '+' then value.tail else value) ∧
        (sign = [] ∨ sign = ['+']) := by
      split
      · rename_i plus
        obtain ⟨digits, split⟩ := List.head?_eq_some_iff.mp plus
        exact ⟨['+'], by simp [split], Or.inr rfl⟩
      · exact ⟨[], rfl, Or.inl rfl⟩
    obtain ⟨sign, whole, signs⟩ := signed
    unfold length? at found
    generalize (if value.head? = some '+' then value.tail else value) = digits at found whole
    simp only at found
    split at found
    · contradiction
    · rename_i numeral
      simp only [Bool.or_eq_true, List.isEmpty_iff, Bool.not_eq_true', not_or,
        Bool.not_eq_false, List.all_eq_true] at numeral
      split at found
      · rename_i fits
        rw [Option.some.injEq] at found
        refine ⟨sign, digits, whole, signs, numeral.1, ?_, ?_, ?_⟩
        · intro digit member
          simpa [isDecimal] using numeral.2 digit member
        · rw [← found]
          rfl
        · rw [← found, ← size]
          exact fits
      · contradiction
  · rintro ⟨sign, digits, whole, signs, occupied, decimal, same, fits⟩
    have numeral : ∀ digit ∈ digits, isDecimal digit = true := by
      intro digit member
      simpa [isDecimal] using decimal digit member
    rw [same] at fits
    have read := length?_of_digits occupied numeral (by rw [size]; exact fits)
    rw [same, ← read, whole]
    rcases signs with none | plus
    · rw [none]
      rfl
    · have unsigned : digits.head? ≠ some '+' := by
        intro again
        have code := isDecimal_iff.mp (numeral '+' (List.mem_of_head? again))
        simp at code
      rw [plus]
      simp [length?, unsigned]

theorem Denotes.unique {value : List Char} {number other : Nat} (denotes : Denotes value number)
    (again : Denotes value other) : number = other := by
  have found := length?_eq_some_iff.mpr denotes
  rw [length?_eq_some_iff.mpr again, Option.some.injEq] at found
  exact found.symm

theorem lengthValue?_of_colon {before after : List Char} (plain : ':' ∉ before) :
    lengthValue? (before ++ ':' :: after) =
      if (Text.trimList before).map Char.toLower = lengthHeader then some (Text.trimList after)
      else none := by
  have passed : ∀ symbol ∈ before, (decide (symbol ≠ ':')) = true := by
    intro symbol member
    rw [decide_eq_true_eq]
    intro colon
    exact plain (colon ▸ member)
  have dropped : (before ++ ':' :: after).dropWhile (· ≠ ':') = ':' :: after := by
    rw [List.dropWhile_append_of_pos passed, List.dropWhile_cons_of_neg (by simp)]
  have taken : (before ++ ':' :: after).takeWhile (· ≠ ':') = before := by
    rw [List.takeWhile_append_of_pos passed, List.takeWhile_cons_of_neg (by simp),
      List.append_nil]
  simp only [lengthValue?, dropped, taken]

theorem lengthValue?_of_plain {line : List Char} (plain : ':' ∉ line) :
    lengthValue? line = none := by
  have dropped : line.dropWhile (· ≠ ':') = [] := by
    rw [List.dropWhile_eq_nil_iff]
    intro symbol member
    rw [decide_eq_true_eq]
    intro colon
    exact plain (colon ▸ member)
  rw [lengthValue?, dropped]

theorem lengthValue?_eq_some_iff {line value : List Char} :
    lengthValue? line = some value ↔ Names line value := by
  constructor
  · intro found
    by_cases colon : ':' ∈ line
    · obtain ⟨before, after, whole, plain⟩ := List.eq_append_cons_of_mem colon
      rw [whole, lengthValue?_of_colon plain] at found
      split at found
      · rename_i named
        rw [Option.some.injEq] at found
        rw [← found]
        exact ⟨before, _, after, whole, plain, Text.trimmed_trimList before, named,
          Text.trimmed_trimList after⟩
      · contradiction
    · rw [lengthValue?_of_plain colon] at found
      contradiction
  · rintro ⟨before, name, after, whole, plain, inner, named, told⟩
    rw [whole, lengthValue?_of_colon plain, inner.trimList_eq, if_pos named, told.trimList_eq]

theorem Names.unique {line value other : List Char} (names : Names line value)
    (again : Names line other) : value = other := by
  have found := lengthValue?_eq_some_iff.mpr names
  rw [lengthValue?_eq_some_iff.mpr again, Option.some.injEq] at found
  exact found.symm

theorem isLineEnd_iff {symbol : Char} : isLineEnd symbol = true ↔ symbol = '\r' ∨ symbol = '\n' := by
  simp [isLineEnd]

theorem blank_of_isLineEnd {symbol : Char} (ends : isLineEnd symbol = true) :
    Text.isBlank symbol = true ∧ symbol ≠ ':' := by
  rcases isLineEnd_iff.mp ends with same | same
  · rw [same]
    decide
  · rw [same]
    decide

theorem lengthValue?_append {line ending : List Char}
    (ends : ∀ symbol ∈ ending, isLineEnd symbol = true) :
    lengthValue? (line ++ ending) = lengthValue? line := by
  by_cases colon : ':' ∈ line
  · obtain ⟨before, after, whole, plain⟩ := List.eq_append_cons_of_mem colon
    have trimmed : Text.trimList (after ++ ending) = Text.trimList after :=
      Text.trimList_append fun symbol member => (blank_of_isLineEnd (ends symbol member)).1
    rw [whole, List.append_assoc, List.cons_append, lengthValue?_of_colon plain,
      lengthValue?_of_colon plain, trimmed]
  · have plain : ':' ∉ line ++ ending := by
      intro member
      rcases List.mem_append.mp member with inside | behind
      · exact colon inside
      · exact (blank_of_isLineEnd (ends ':' behind)).2 rfl
    rw [lengthValue?_of_plain colon, lengthValue?_of_plain plain]

theorem lengthValue?_lineContent (text : String) :
    lengthValue? (lineContent text) = lengthValue? text.toList := by
  obtain ⟨ending, whole, ends⟩ := Text.trimEnd_append_dropped isLineEnd text.toList
  conv => rhs; rw [whole]
  exact (lengthValue?_append ends).symm

theorem lineContent_eq_nil_iff {text : String} :
    lineContent text = [] ↔ ∀ symbol ∈ text.toList, isLineEnd symbol = true := by
  rw [lineContent, Text.trimEnd, List.reverse_eq_nil_iff, List.dropWhile_eq_nil_iff]
  simp only [List.mem_reverse]

theorem lineContent_eq_nil_iff_octets {text : String} :
    lineContent text = [] ↔
      ∀ octet ∈ Bytes.ofString text, octet = ascii '\r' ∨ octet = newline := by
  rw [lineContent_eq_nil_iff]
  constructor
  · intro ends octet member
    have seven : ∀ symbol ∈ text.toList, symbol.toNat < 128 := by
      intro symbol inside
      rcases isLineEnd_iff.mp (ends symbol inside) with same | same
      · rw [same]
        decide
      · rw [same]
        decide
    have spelled := Bytes.ofString_ofList_of_ascii seven
    rw [String.ofList_toList] at spelled
    rw [spelled] at member
    obtain ⟨symbol, inside, same⟩ := List.mem_map.mp member
    rcases isLineEnd_iff.mp (ends symbol inside) with carriage | line
    · exact Or.inl (by rw [← same, carriage])
    · exact Or.inr (by rw [← same, line, newline])
  · intro ends symbol member
    generalize shown : (Bytes.ofString text).map
      (fun octet => if octet = newline then '\n' else '\r') = symbols
    have each : ∀ other ∈ symbols, isLineEnd other = true ∧ other.toNat < 128 := by
      intro other inside
      rw [← shown] at inside
      obtain ⟨octet, _, same⟩ := List.mem_map.mp inside
      rw [← same]
      split
      · decide
      · decide
    have octets : symbols.map ascii = Bytes.ofString text := by
      rw [← shown, List.map_map]
      conv => rhs; rw [← List.map_id (Bytes.ofString text)]
      apply List.map_congr_left
      intro octet inside
      rcases ends octet inside with carriage | line
      · rw [carriage]
        decide
      · rw [line]
        decide
    have read := Bytes.text?_map_ascii fun other inside => (each other inside).2
    rw [octets, Bytes.text?_ofString, Option.some.injEq] at read
    rw [read, String.toList_ofList] at member
    exact (each symbol member).1

end Frame

end Debuggee
