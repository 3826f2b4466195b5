/-! Octet strings, the UTF-8 text they may hold, and the decimal digits written in them. -/

namespace Debuggee

abbrev Bytes := List UInt8

namespace Bytes

def ofString (text : String) : Bytes :=
  text.toByteArray.data.toList

def text? (octets : Bytes) : Option String :=
  String.fromUTF8? octets.toByteArray

theorem toByteArray_ofString (text : String) :
    (ofString text).toByteArray = text.toByteArray := by
  have same : (ofString text).toByteArray.data = text.toByteArray.data := by
    simp [ofString]
  exact ByteArray.ext same

@[simp] theorem text?_ofString (text : String) : text? (ofString text) = some text := by
  unfold text? String.fromUTF8?
  rw [toByteArray_ofString, dif_pos text.isValidUTF8]
  rfl

theorem ofString_of_text? {octets : Bytes} {text : String} (found : text? octets = some text) :
    ofString text = octets := by
  unfold text? String.fromUTF8? at found
  split at found
  next valid =>
    injection found with found
    subst found
    simp [ofString, String.fromUTF8]
  next => simp at found

def ascii (symbol : Char) : UInt8 :=
  symbol.toNat.toUInt8

def isDigit (octet : UInt8) : Bool :=
  ascii '0' ≤ octet && octet ≤ ascii '9'

def digitValue (octet : UInt8) : Nat :=
  octet.toNat - 48

def decimalFrom (start : Nat) (digits : Bytes) : Nat :=
  digits.foldl (fun total digit => 10 * total + digitValue digit) start

def decimal (digits : Bytes) : Nat :=
  decimalFrom 0 digits

def ofNat (number : Nat) : Bytes :=
  (Nat.toDigits 10 number).map ascii

def ofInt : Int → Bytes
  | .ofNat number => ofNat number
  | .negSucc number => ascii '-' :: ofNat (number + 1)

def hexValue? (octet : UInt8) : Option Nat :=
  if isDigit octet then some (digitValue octet)
  else if ascii 'a' ≤ octet && octet ≤ ascii 'f' then some (octet.toNat - 87)
  else if ascii 'A' ≤ octet && octet ≤ ascii 'F' then some (octet.toNat - 55)
  else none

def hexDigit (value : Nat) : UInt8 :=
  if value < 10 then (48 + value).toUInt8 else (87 + value).toUInt8

end Bytes

end Debuggee
