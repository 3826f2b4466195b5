import Debuggee.Json.Text
import Debuggee.Proofs.Frame.RoundTrip

/-!
Texts and integers are read as the tokens that they were written from. A text ends at its closing
quote, since no quote stands bare inside it; a numeral ends where a list or an object goes on.
-/

namespace Debuggee

namespace Bytes

theorem hexValue?_hexDigit {value : Nat} (small : value < 16) :
    hexValue? (hexDigit value) = some value := by
  interval_cases value <;> rfl

theorem isDigit_ascii {digit : Char} (decimal : Frame.isDecimal digit = true) :
    isDigit (ascii digit) = true ∧ digitValue (ascii digit) = digit.toNat - 48 := by
  have code := Frame.isDecimal_iff.mp decimal
  have value : (ascii digit).toNat = digit.toNat := by
    simp only [ascii, Nat.toUInt8_eq, UInt8.toNat_ofNat']
    omega
  have lower : (ascii '0').toNat = 48 := rfl
  have upper : (ascii '9').toNat = 57 := rfl
  refine ⟨?_, by rw [digitValue, value]⟩
  simp only [isDigit, Bool.and_eq_true, decide_eq_true_eq, UInt8.le_iff_toNat_le, value, lower,
    upper]
  exact code

theorem isDigit_of_mem_ofNat {number : Nat} {octet : UInt8} (member : octet ∈ ofNat number) :
    isDigit octet = true := by
  obtain ⟨digit, belongs, same⟩ := List.mem_map.mp member
  rw [← same]
  exact (isDigit_ascii (Frame.isDecimal_of_mem_toDigits belongs)).1

theorem ofNat_ne_nil (number : Nat) : ofNat number ≠ [] := by
  simp [ofNat, Nat.toDigits_ne_nil]

theorem decimalFrom_map {symbols : List Char}
    (decimal : ∀ symbol ∈ symbols, Frame.isDecimal symbol = true) (start : Nat) :
    decimalFrom start (symbols.map ascii) = Nat.ofDigitChars 10 symbols start := by
  induction symbols generalizing start with
  | nil => rfl
  | cons symbol symbols ih =>
      have value := (isDigit_ascii (decimal symbol (by simp))).2
      have later := ih (fun other member => decimal other (List.mem_cons_of_mem _ member))
        (10 * start + (symbol.toNat - '0'.toNat))
      rw [Nat.ofDigitChars_cons, List.map_cons, ← later]
      change decimalFrom (10 * start + digitValue (ascii symbol)) _ = _
      rw [value]
      rfl

theorem decimal_ofNat (number : Nat) : decimal (ofNat number) = number := by
  rw [decimal, ofNat, decimalFrom_map fun _ member => Frame.isDecimal_of_mem_toDigits member,
    Nat.ofDigitChars_ten_toDigits]

theorem head?_toDigits_ne_zero {number : Nat} (positive : 0 < number) :
    (Nat.toDigits 10 number).head? ≠ some '0' := by
  induction number using Nat.strongRecOn with
  | ind number ih =>
      by_cases small : number < 10
      · rw [Nat.toDigits_of_lt_base small]
        simp
        omega
      · rw [Nat.toDigits_of_base_le (by decide) (by omega),
          List.head?_append_of_ne_nil _ Nat.toDigits_ne_nil]
        exact ih (number / 10) (by omega) (by omega)

theorem head?_ofNat_ne_zero {number : Nat} (positive : 0 < number) :
    (ofNat number).head? ≠ some (ascii '0') := by
  intro zero
  rw [ofNat, List.head?_map, Option.map_eq_some_iff] at zero
  obtain ⟨digit, first, same⟩ := zero
  have code := Frame.isDecimal_iff.mp
    (Frame.isDecimal_of_mem_toDigits (List.mem_of_head? first))
  have digitZero : digit = '0' := ascii_injective (by omega) (by decide) same
  rw [digitZero] at first
  exact head?_toDigits_ne_zero positive first

end Bytes

namespace Json

open Bytes (ascii isDigit)

theorem escapeOctet_cases (octet : UInt8) :
    (∃ letter, escapeOctet octet = [backslash, letter] ∧ plainEscape? letter = some octet) ∨
      (octet.toNat < 32 ∧ escapeOctet octet = [backslash, ascii 'u', ascii '0', ascii '0',
        Bytes.hexDigit (octet.toNat / 16), Bytes.hexDigit (octet.toNat % 16)]) ∨
      (escapeOctet octet = [octet] ∧ octet ≠ quote ∧ octet ≠ backslash ∧ ¬ octet < 32) := by
  unfold escapeOctet
  split
  · rename_i same
    exact Or.inl ⟨quote, rfl, by rw [same]; rfl⟩
  · split
    · rename_i same
      exact Or.inl ⟨backslash, rfl, by rw [same]; rfl⟩
    · repeat' split
      all_goals try
        rename_i same
        exact Or.inl ⟨_, rfl, by rw [same]; rfl⟩
      · rename_i control
        exact Or.inr (Or.inl ⟨UInt8.lt_iff_toNat_lt.mp control, rfl⟩)
      · exact Or.inr (Or.inr ⟨rfl, by assumption, by assumption, by assumption⟩)

theorem fourHexDigits?_control {octet : UInt8} (control : octet.toNat < 32) :
    fourHexDigits? (ascii '0') (ascii '0') (Bytes.hexDigit (octet.toNat / 16))
      (Bytes.hexDigit (octet.toNat % 16)) = some octet.toNat := by
  have zero : Bytes.hexValue? (ascii '0') = some 0 := rfl
  have high : octet.toNat / 16 < 16 := by omega
  have low : octet.toNat % 16 < 16 := by omega
  have value : ((16 * 0 + 0) * 16 + octet.toNat / 16) * 16 + octet.toNat % 16 = octet.toNat := by
    omega
  simp only [fourHexDigits?, zero, Bytes.hexValue?_hexDigit high, Bytes.hexValue?_hexDigit low,
    Option.bind_eq_bind, Option.bind_some, value]
  rfl

theorem reversedOctets_of_control {octet : UInt8} (control : octet.toNat < 32) :
    reversedOctets octet.toNat = [octet] := by
  have code : (Char.ofNat octet.toNat).toNat = octet.toNat := by
    have valid : octet.toNat.isValidChar := Or.inl (by omega)
    simp [Char.toNat, Char.ofNat, valid, Char.ofNatAux]
  have seven : (Char.ofNat octet.toNat).toNat < 128 := by omega
  rw [reversedOctets, Bytes.utf8EncodeChar_of_ascii seven, ascii, code]
  simp

theorem backslash_ne_quote : backslash ≠ quote := by decide

theorem plainEscape?_unicode : plainEscape? (ascii 'u') = none := by decide

theorem unescape_escapeOctet (done : Bytes) (octet : UInt8) (rest : Bytes) :
    unescape done (escapeOctet octet ++ rest) = unescape (octet :: done) rest := by
  rw [unescape.eq_def]
  rcases escapeOctet_cases octet with ⟨letter, escaped, meant⟩ | ⟨control, escaped⟩ |
    ⟨plain, notQuote, notBackslash, notControl⟩
  · simp [escaped, backslash_ne_quote, meant]
  · have trailing : isTrailingSurrogate octet.toNat = false := by
      simp [isTrailingSurrogate]
      omega
    have leading : isLeadingSurrogate octet.toNat = false := by
      simp [isLeadingSurrogate]
      omega
    simp [escaped, backslash_ne_quote, plainEscape?_unicode, fourHexDigits?_control control,
      trailing, leading, reversedOctets_of_control control]
  · simp [plain, notQuote, notBackslash, notControl]

theorem passText_escapeOctet (octet : UInt8) (rest : Bytes) :
    passText (escapeOctet octet ++ rest) = passText rest := by
  rw [passText.eq_def]
  rcases escapeOctet_cases octet with ⟨letter, escaped, meant⟩ | ⟨control, escaped⟩ |
    ⟨plain, notQuote, notBackslash, notControl⟩
  · simp [escaped, backslash_ne_quote, meant]
  · simp [escaped, backslash_ne_quote, plainEscape?_unicode, fourHexDigits?_control control]
  · simp [plain, notQuote, notBackslash, notControl]

theorem unescape_escaped (done octets rest : Bytes) :
    unescape done (octets.flatMap escapeOctet ++ quote :: rest) = .ok (done.reverse ++ octets) := by
  induction octets generalizing done with
  | nil =>
      rw [List.flatMap_nil, List.nil_append, unescape.eq_def]
      simp
  | cons octet octets ih =>
      rw [List.flatMap_cons, List.append_assoc, unescape_escapeOctet, ih, List.reverse_cons,
        List.append_assoc]
      rfl

theorem passText_escaped (octets rest : Bytes) :
    passText (octets.flatMap escapeOctet ++ quote :: rest) = .ok rest := by
  induction octets with
  | nil =>
      rw [List.flatMap_nil, List.nil_append, passText.eq_def]
      simp
  | cons octet octets ih => rw [List.flatMap_cons, List.append_assoc, passText_escapeOctet, ih]

/-- A text is read as it was written, and reading stops behind its closing quote. -/
theorem textToken_escaped (text : String) (rest : Bytes) :
    textToken ((Bytes.ofString text).flatMap escapeOctet ++ quote :: rest) =
      (.text (.plain text), rest) := by
  have content := unescape_escaped [] (Bytes.ofString text) rest
  have read : readText ((Bytes.ofString text).flatMap escapeOctet ++ quote :: rest) =
      .ok text := by
    simp only [readText, content, List.reverse_nil, List.nil_append, bind, Except.bind]
    rw [Bytes.text?_ofString]
  rw [textToken, passText_escaped, read]
  rfl

theorem nextToken_renderText (text : String) (rest : Bytes) :
    nextToken (renderText text ++ rest) = some (.text (.plain text), rest) := by
  have unspaced : isSpace quote = false := by decide
  have split : renderText text ++ rest =
      quote :: ((Bytes.ofString text).flatMap escapeOctet ++ quote :: rest) := by
    simp [renderText]
  rw [split, nextToken, List.dropWhile_cons_of_neg (by simp [unspaced])]
  simp only [tokenAt, if_pos, textToken_escaped]

/-- What may follow a value: nothing, or what ends an item or a member. -/
def Ends (rest : Bytes) : Prop :=
  ∀ octet ∈ rest.head?, octet = ascii ',' ∨ octet = ascii ']' ∨ octet = ascii '\x7d'

theorem takeWhile_digits {digits rest : Bytes} (decimal : ∀ digit ∈ digits, isDigit digit = true)
    (ends : Ends rest) :
    (digits ++ rest).takeWhile isDigit = digits ∧ (digits ++ rest).dropWhile isDigit = rest := by
  rw [List.takeWhile_append_of_pos decimal, List.dropWhile_append_of_pos decimal]
  cases rest with
  | nil => simp
  | cons octet rest =>
      have undecimal : isDigit octet = false := by
        rcases ends octet rfl with same | same | same <;> rw [same] <;> decide
      simp [undecimal]

theorem scanDigits_ofNat (number : Nat) {rest : Bytes} (ends : Ends rest) :
    scanDigits (Bytes.ofNat number ++ rest) = .ok (Bytes.ofNat number, rest) := by
  obtain ⟨taken, dropped⟩ :=
    takeWhile_digits (fun _ member => Bytes.isDigit_of_mem_ofNat member) ends
  rw [scanDigits, taken, dropped]
  split
  · rename_i nothing
    exact absurd nothing (Bytes.ofNat_ne_nil number)
  · rfl

theorem scanWhole_ofNat (number : Nat) {rest : Bytes} (ends : Ends rest) :
    scanWhole (Bytes.ofNat number ++ rest) = .ok (Bytes.ofNat number, rest) := by
  have alone : ¬((Bytes.ofNat number).head? = some (ascii '0') ∧
      1 < (Bytes.ofNat number).length) := by
    rintro ⟨zero, long⟩
    rcases Nat.eq_zero_or_pos number with nothing | positive
    · subst nothing
      simp [Bytes.ofNat] at long
    · exact Bytes.head?_ofNat_ne_zero positive zero
  rw [scanWhole, scanDigits_ofNat number ends]
  exact if_neg alone

theorem scanFraction_of_ends {rest : Bytes} (ends : Ends rest) :
    scanFraction rest = .ok (none, rest) := by
  cases rest with
  | nil => rfl
  | cons octet rest =>
      have other : octet ≠ ascii '.' := by
        rcases ends octet rfl with same | same | same <;> rw [same] <;> decide
      simp [scanFraction, other]

theorem scanExponent_of_ends {rest : Bytes} (ends : Ends rest) :
    scanExponent rest = .ok (none, rest) := by
  cases rest with
  | nil => rfl
  | cons octet rest =>
      have other : ¬(octet = ascii 'e' ∨ octet = ascii 'E') := by
        rcases ends octet rfl with same | same | same <;> rw [same] <;> decide
      simp [scanExponent, other]

theorem scanNumeral_of_whole {octets rest : Bytes} (number : Nat) (ends : Ends rest)
    (whole : (if octets.head? = some (ascii '-') then octets.tail else octets) =
      Bytes.ofNat number ++ rest) :
    scanNumeral octets = .ok
      (⟨octets.head? = some (ascii '-'), Bytes.ofNat number, none, none⟩, rest) := by
  simp only [scanNumeral, whole, scanWhole_ofNat number ends, bind, Except.bind,
    scanFraction_of_ends ends, scanExponent_of_ends ends]

def IsExact (value : Int) : Prop :=
  -(2 ^ 63) ≤ value ∧ value < 2 ^ 64

theorem nextToken_digit {octet : UInt8} (digit : isDigit octet = true) (rest : Bytes) :
    nextToken (octet :: rest) = some (numberToken (octet :: rest)) := by
  have code : 48 ≤ octet.toNat ∧ octet.toNat ≤ 57 := by
    simpa [isDigit, UInt8.le_iff_toNat_le, ascii] using digit
  have other : ∀ symbol : UInt8, (symbol.toNat < 48 ∨ 57 < symbol.toNat) → octet ≠ symbol := by
    intro symbol outside same
    rw [same] at code
    omega
  have unspaced : isSpace octet = false := by
    simp [isSpace, other]
  rw [nextToken, List.dropWhile_cons_of_neg (by simp [unspaced])]
  simp only [tokenAt]
  rw [if_neg (other _ (by decide)), if_neg (other _ (by decide)), if_neg (other _ (by decide)),
    if_neg (other _ (by decide)), if_neg (other _ (by decide)), if_neg (other _ (by decide)),
    if_neg (other _ (by decide)), if_neg (other _ (by decide)), if_neg (other _ (by decide)),
    if_neg (other _ (by decide)), if_pos (by simp [digit])]

theorem nextToken_minus (rest : Bytes) :
    nextToken (ascii '-' :: rest) = some (numberToken (ascii '-' :: rest)) := rfl

theorem value_unsigned {number : Nat} (fits : number ≤ maxWord) :
    Numeral.value ⟨false, Bytes.ofNat number, none, none⟩ = .ok (.integer number) := by
  rw [Numeral.value, if_pos (by simpa [Numeral.isInteger, Bytes.decimal_ofNat] using fits)]
  simp only [Bytes.decimal_ofNat]

theorem value_negative {number : Nat} (fits : number + 1 ≤ Int64.minValue.toInt.natAbs) :
    Numeral.value ⟨true, Bytes.ofNat (number + 1), none, none⟩ =
      .ok (.integer (.negSucc number)) := by
  rw [Numeral.value, if_neg (by simp), if_pos]
  · simp only [Bytes.decimal_ofNat]
    rfl
  · simpa only [Numeral.isInteger, Bytes.decimal_ofNat, Bool.and_eq_true, decide_eq_true_eq,
      Option.isNone_none, true_and] using ⟨Nat.succ_ne_zero number, fits⟩

theorem numberToken_of_whole {octets rest : Bytes} (number : Nat) (ends : Ends rest)
    (whole : (if octets.head? = some (ascii '-') then octets.tail else octets) =
      Bytes.ofNat number ++ rest) :
    numberToken octets = (.number ⟨Numeral.value
      ⟨octets.head? = some (ascii '-'), Bytes.ofNat number, none, none⟩, .ok ()⟩, rest) := by
  rw [numberToken, scanNumeral_of_whole number ends whole]

theorem nextToken_ofInt {value : Int} (exact : IsExact value) {rest : Bytes} (ends : Ends rest) :
    nextToken (Bytes.ofInt value ++ rest) =
      some (.number (.plain (.integer value)), rest) := by
  obtain ⟨low, high⟩ := exact
  cases value with
  | ofNat number =>
      obtain ⟨octet, octets, written⟩ := List.exists_cons_of_ne_nil (Bytes.ofNat_ne_nil number)
      have member : octet ∈ Bytes.ofNat number := by simp [written]
      have digit := Bytes.isDigit_of_mem_ofNat member
      have unsigned : ¬(Bytes.ofNat number ++ rest).head? = some (ascii '-') := by
        rw [written, List.cons_append, List.head?_cons]
        intro same
        rw [Option.some.inj same] at digit
        exact absurd digit (by decide)
      have fits : number ≤ maxWord := by
        rw [Int.ofNat_eq_natCast] at high
        simp only [maxWord, UInt64.size]
        omega
      have begins := nextToken_digit digit (octets ++ rest)
      rw [← List.cons_append, ← written] at begins
      rw [Bytes.ofInt, begins, numberToken_of_whole number ends (if_neg unsigned),
        decide_eq_false unsigned, value_unsigned fits]
      rfl
  | negSucc number =>
      have fits : number + 1 ≤ Int64.minValue.toInt.natAbs := by
        have bound : Int64.minValue.toInt.natAbs = 2 ^ 63 := rfl
        omega
      have begins := nextToken_minus (Bytes.ofNat (number + 1) ++ rest)
      rw [Bytes.ofInt, List.cons_append, begins,
        numberToken_of_whole (number + 1) ends (if_pos rfl), List.head?_cons, decide_eq_true rfl,
        value_negative fits]
      rfl

end Json

end Debuggee
