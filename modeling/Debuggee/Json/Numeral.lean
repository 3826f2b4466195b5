import Debuggee.Bytes
import Debuggee.Draft

/-!
Numerals in data. An integer that fits sixty-four bits is kept; every other numeral becomes a
double. The significand of such a numeral is cut off before it exceeds sixty-four bits.
-/

namespace Debuggee.Json

open Bytes (ascii isDigit)

structure Numeral where
  negative : Bool
  whole : Bytes
  fraction : Option Bytes
  /-- Whether the exponent is negative, and its digits. -/
  exponent : Option (Bool × Bytes)
  deriving Repr

inductive NumeralFault where
  | atEnd
  | atOctet
  deriving DecidableEq, Repr

def NumeralFault.reading : NumeralFault → Fault
  | .atEnd => .endInValue
  | .atOctet => .invalidNumber

def scanDigits (octets : Bytes) : Except NumeralFault (Bytes × Bytes) :=
  match octets.takeWhile isDigit with
  | [] => .error (if octets.isEmpty then .atEnd else .atOctet)
  | digits => .ok (digits, octets.dropWhile isDigit)

/-- A whole part; a zero stands alone. -/
def scanWhole (octets : Bytes) : Except NumeralFault (Bytes × Bytes) := do
  let (digits, rest) ← scanDigits octets
  if digits.head? = some (ascii '0') ∧ 1 < digits.length then .error .atOctet
  else .ok (digits, rest)

def scanFraction (octets : Bytes) : Except NumeralFault (Option Bytes × Bytes) :=
  match octets with
  | point :: rest =>
    if point = ascii '.' then do
      let (digits, rest) ← scanDigits rest
      .ok (some digits, rest)
    else .ok (none, octets)
  | [] => .ok (none, [])

def scanSign (octets : Bytes) : Bool × Bytes :=
  match octets with
  | sign :: rest =>
    if sign = ascii '-' then (true, rest)
    else if sign = ascii '+' then (false, rest)
    else (false, octets)
  | [] => (false, [])

def scanExponent (octets : Bytes) : Except NumeralFault (Option (Bool × Bytes) × Bytes) :=
  match octets with
  | letter :: rest =>
    if letter = ascii 'e' ∨ letter = ascii 'E' then do
      let (negative, rest) := scanSign rest
      let (digits, rest) ← scanDigits rest
      .ok (some (negative, digits), rest)
    else .ok (none, octets)
  | [] => .ok (none, [])

def scanNumeral (octets : Bytes) : Except NumeralFault (Numeral × Bytes) := do
  let negative := octets.head? = some (ascii '-')
  let (whole, rest) ← scanWhole (if negative then octets.tail else octets)
  let (fraction, rest) ← scanFraction rest
  let (exponent, rest) ← scanExponent rest
  .ok (⟨negative, whole, fraction, exponent⟩, rest)

def maxWord : Nat := UInt64.size - 1

/-- Continues a significand by as many digits as sixty-four bits allow; returns the others. -/
def takeSignificand (significand : Nat) : Bytes → Nat × Bytes
  | [] => (significand, [])
  | digit :: digits =>
    let longer := 10 * significand + Bytes.digitValue digit
    if maxWord < longer then (significand, digit :: digits)
    else takeSignificand longer digits

/-- The double `significand * 10 ^ exponent`, where each of the steps rounds. -/
def scaledCode (code : Nat) (exponent : Int) : Nat → Option Nat
  | 0 => some 0
  | fuel + 1 =>
    let power := (Binary64.ofDecimal false 1 exponent.natAbs).code
    if exponent.natAbs ≤ 308 then
      if 0 ≤ exponent then
        let product := Binary64.timesCode code power
        if product = Binary64.infiniteCode then none else some product
      else some (Binary64.overCode code power)
    else if code = 0 then some 0
    else if 0 ≤ exponent then none
    else
      scaledCode (Binary64.overCode code (Binary64.ofDecimal false 1 308).code) (exponent + 308)
        fuel

def maxExponent : Nat := Int32.maxValue.toInt.toNat

namespace Numeral

def double? (numeral : Numeral) : Option Binary64 := do
  let fraction := numeral.fraction.getD []
  let (start, unread) := takeSignificand 0 numeral.whole
  let (significand, dropped) := takeSignificand start fraction
  let place : Int := (unread.length : Int) - ((fraction.length : Int) - dropped.length)
  let (negative, digits) := numeral.exponent.getD (false, [])
  let given := Bytes.decimal digits
  if maxExponent < given then
    if significand ≠ 0 ∧ !negative then none
    else some ⟨numeral.negative, 0⟩
  else
    let exponent := if negative then place - given else place + given
    let code ← scaledCode (Binary64.nearestCode significand 1) exponent 8
    some ⟨numeral.negative, code⟩

def isInteger (numeral : Numeral) : Bool :=
  numeral.fraction.isNone && numeral.exponent.isNone

/-- The number a numeral denotes; a negative zero is a double. -/
def value (numeral : Numeral) : Except Fault Number :=
  let magnitude := Bytes.decimal numeral.whole
  if numeral.isInteger && !numeral.negative && magnitude ≤ maxWord then
    .ok (.integer magnitude)
  else if numeral.isInteger && numeral.negative && magnitude ≠ 0 &&
      magnitude ≤ Int64.minValue.toInt.natAbs then
    .ok (.integer (-magnitude))
  else
    match numeral.double? with
    | some number => .ok (.double number)
    | none => .error .numberOutOfRange

end Numeral

end Debuggee.Json
