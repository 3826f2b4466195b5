import Debuggee.Json.Numeral
import Debuggee.Json.Quoted

/-! The tokens of a data text. What no token begins with, or breaks off in one, is a token too. -/

namespace Debuggee.Json

open Bytes (ascii isDigit)

inductive Token where
  | openList
  | closeList
  | openObject
  | closeObject
  | comma
  | colon
  | null
  | boolean (value : Bool)
  | number (lexeme : Lexeme Number)
  | text (lexeme : Lexeme String)
  | misspelt (fault : Fault)
  | stray

def isSpace (octet : UInt8) : Bool :=
  octet == 32 || octet == 10 || octet == 9 || octet == 13

def spell : Bytes → Bytes → Except Fault Bytes
  | [], rest => .ok rest
  | _ :: _, [] => .error .endInValue
  | letter :: letters, octet :: rest =>
    if octet = letter then spell letters rest else .error .expectedWord

def constantToken (token : Token) (letters : String) (rest : Bytes) : Token × Bytes :=
  match spell (Bytes.ofString letters) rest with
  | .ok rest => (token, rest)
  | .error fault => (.misspelt fault, [])

def numberToken (octets : Bytes) : Token × Bytes :=
  match scanNumeral octets with
  | .ok (numeral, rest) => (.number ⟨numeral.value, .ok ()⟩, rest)
  | .error fault => (.number ⟨.error fault.reading, .error .invalidNumber⟩, [])

def textToken (octets : Bytes) : Token × Bytes :=
  match passText octets with
  | .ok rest => (.text ⟨readText octets, .ok ()⟩, rest)
  | .error fault =>
    match readText octets with
    | .ok _ => (.text ⟨.error fault, .error fault⟩, [])
    | .error first => (.text ⟨.error first, .error fault⟩, [])

def tokenAt (octet : UInt8) (rest : Bytes) : Token × Bytes :=
  if octet = quote then textToken rest
  else if octet = ascii '\x7b' then (.openObject, rest)
  else if octet = ascii '\x7d' then (.closeObject, rest)
  else if octet = ascii '[' then (.openList, rest)
  else if octet = ascii ']' then (.closeList, rest)
  else if octet = ascii ',' then (.comma, rest)
  else if octet = ascii ':' then (.colon, rest)
  else if octet = ascii 'n' then constantToken .null "ull" rest
  else if octet = ascii 't' then constantToken (.boolean true) "rue" rest
  else if octet = ascii 'f' then constantToken (.boolean false) "alse" rest
  else if octet = ascii '-' || isDigit octet then numberToken (octet :: rest)
  else (.stray, rest)

def nextToken (octets : Bytes) : Option (Token × Bytes) :=
  match octets.dropWhile isSpace with
  | [] => none
  | octet :: rest => some (tokenAt octet rest)

theorem spell_length (letters octets rest : Bytes) (spelt : spell letters octets = .ok rest) :
    rest.length ≤ octets.length := by
  fun_induction spell letters octets with
  | case1 => simp_all
  | case2 => simp at spelt
  | case3 _ _ _ ih =>
      have shorter := ih spelt
      simp only [List.length_cons]
      omega
  | case4 => simp at spelt

theorem constantToken_length (token : Token) (letters : String) (octets : Bytes) :
    (constantToken token letters octets).2.length ≤ octets.length := by
  unfold constantToken
  split
  next spelt => exact spell_length _ _ _ spelt
  next => simp

theorem passText_length (octets rest : Bytes) (passed : passText octets = .ok rest) :
    rest.length ≤ octets.length := by
  fun_induction passText octets with
  | case2 => simp_all
  | case4 =>
      rename_i ih
      have shorter := ih passed
      simp only [List.length_cons]
      omega
  | case6 =>
      rename_i ih
      have shorter := ih passed
      simp only [List.length_cons]
      omega
  | case10 =>
      rename_i ih
      have shorter := ih passed
      simp only [List.length_cons]
      omega
  | _ => simp at passed

theorem textToken_length (octets : Bytes) : (textToken octets).2.length ≤ octets.length := by
  unfold textToken
  split
  next passed => exact passText_length _ _ passed
  next => split <;> simp

theorem scanDigits_length {octets digits rest : Bytes}
    (scanned : scanDigits octets = .ok (digits, rest)) : rest.length < octets.length := by
  unfold scanDigits at scanned
  split at scanned
  next => simp at scanned
  next some_digit =>
    simp only [Except.ok.injEq, Prod.mk.injEq] at scanned
    obtain ⟨rfl, rfl⟩ := scanned
    have whole := congrArg List.length
      (List.takeWhile_append_dropWhile (p := isDigit) (l := octets))
    simp only [List.length_append] at whole
    have positive : 0 < (octets.takeWhile isDigit).length :=
      List.length_pos_iff.mpr some_digit
    omega

theorem scanWhole_length {octets digits rest : Bytes}
    (scanned : scanWhole octets = .ok (digits, rest)) : rest.length < octets.length := by
  unfold scanWhole at scanned
  simp only [bind, Except.bind] at scanned
  split at scanned
  next => simp at scanned
  next found foundScanned =>
    split at scanned
    next => simp at scanned
    next =>
      simp only [Except.ok.injEq, Prod.mk.injEq] at scanned
      obtain ⟨rfl, rfl⟩ := scanned
      exact scanDigits_length foundScanned

theorem scanFraction_length {octets rest : Bytes} {fraction : Option Bytes}
    (scanned : scanFraction octets = .ok (fraction, rest)) : rest.length ≤ octets.length := by
  unfold scanFraction at scanned
  split at scanned
  next point others =>
    split at scanned
    next =>
      simp only [bind, Except.bind] at scanned
      split at scanned
      next => simp at scanned
      next found foundScanned =>
        simp only [Except.ok.injEq, Prod.mk.injEq] at scanned
        obtain ⟨_, rfl⟩ := scanned
        have shorter := scanDigits_length foundScanned
        simp only [List.length_cons]
        omega
    next => simp_all
  next => simp_all

theorem scanSign_length (octets : Bytes) : (scanSign octets).2.length ≤ octets.length := by
  unfold scanSign
  repeat' split
  all_goals simp

theorem scanExponent_length {octets rest : Bytes} {exponent : Option (Bool × Bytes)}
    (scanned : scanExponent octets = .ok (exponent, rest)) : rest.length ≤ octets.length := by
  unfold scanExponent at scanned
  split at scanned
  next letter others =>
    split at scanned
    next =>
      simp only [bind, Except.bind] at scanned
      split at scanned
      next => simp at scanned
      next found foundScanned =>
        simp only [Except.ok.injEq, Prod.mk.injEq] at scanned
        obtain ⟨_, rfl⟩ := scanned
        have shorter := scanDigits_length foundScanned
        have signed := scanSign_length others
        simp only [List.length_cons]
        omega
    next => simp_all
  next => simp_all

theorem scanNumeral_length {octets rest : Bytes} {numeral : Numeral}
    (scanned : scanNumeral octets = .ok (numeral, rest)) : rest.length < octets.length := by
  unfold scanNumeral at scanned
  simp only [bind, Except.bind] at scanned
  split at scanned
  next => simp at scanned
  next whole wholeScanned =>
    split at scanned
    next => simp at scanned
    next fraction fractionScanned =>
      split at scanned
      next => simp at scanned
      next exponent exponentScanned =>
        simp only [Except.ok.injEq, Prod.mk.injEq] at scanned
        obtain ⟨_, rfl⟩ := scanned
        have first := scanWhole_length wholeScanned
        have second := scanFraction_length fractionScanned
        have third := scanExponent_length exponentScanned
        have tail : (if octets.head? = some (ascii '-') then octets.tail else octets).length ≤
            octets.length := by
          split <;> simp
        omega

theorem numberToken_length (octet : UInt8) (rest : Bytes) :
    (numberToken (octet :: rest)).2.length ≤ rest.length := by
  unfold numberToken
  split
  next scanned =>
    have shorter := scanNumeral_length scanned
    simp only [List.length_cons] at shorter
    simp only
    omega
  next => simp

theorem branch_length {condition : Prop} [Decidable condition] {left right : Token × Bytes}
    {bound : Nat} (leftBound : left.2.length ≤ bound) (rightBound : right.2.length ≤ bound) :
    (if condition then left else right).2.length ≤ bound := by
  split <;> assumption

theorem tokenAt_length (octet : UInt8) (rest : Bytes) :
    (tokenAt octet rest).2.length ≤ rest.length := by
  unfold tokenAt
  exact branch_length (textToken_length rest) <|
    branch_length (Nat.le_refl _) <| branch_length (Nat.le_refl _) <|
    branch_length (Nat.le_refl _) <| branch_length (Nat.le_refl _) <|
    branch_length (Nat.le_refl _) <| branch_length (Nat.le_refl _) <|
    branch_length (constantToken_length _ _ _) <|
    branch_length (constantToken_length _ _ _) <|
    branch_length (constantToken_length _ _ _) <|
    branch_length (numberToken_length _ _) (Nat.le_refl _)

theorem nextToken_length {octets rest : Bytes} {token : Token}
    (found : nextToken octets = some (token, rest)) : rest.length < octets.length := by
  unfold nextToken at found
  split at found
  next => simp at found
  next octet others kept =>
    injection found with found
    have bound := tokenAt_length octet others
    rw [found] at bound
    have dropped := (List.dropWhile_sublist (l := octets) isSpace).length_le
    rw [kept, List.length_cons] at dropped
    simp only at bound
    omega

end Debuggee.Json
