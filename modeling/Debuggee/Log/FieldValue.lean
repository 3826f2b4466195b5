import Debuggee.Binary64
import Debuggee.Log.Level
import Debuggee.Log.Pattern.Reader

/-!
Values that a directive asks of a field. A text is a truth value, a number or, if it is neither, a
pattern; each kind of value has its place in the order of values, and numbers have one text each.
-/

namespace Debuggee.Log

inductive FieldValue where
  | boolean (value : Bool)
  | double (value : Binary64)
  | notANumber
  | natural (value : Nat)
  | integer (value : Int)
  | pattern (text : String)
  deriving DecidableEq, Repr

namespace FieldValue

def style : Binary64.Style where
  lowest := -400
  highest := 400
  pointed := false
  upward := true

def text : FieldValue → String
  | .boolean value => if value then "true" else "false"
  | .double value => value.render style
  | .notANumber => "NaN"
  | .natural value => toString value
  | .integer value => toString value
  | .pattern text => text

/-- A whole number of sixty-four bits that is not above zero. -/
def integer? (symbols : List Char) : Option Int :=
  match symbols with
  | '-' :: digits => do
    let number ← Text.number? digits
    let value := -(number : Int)
    if Int64.minValue.toInt ≤ value then some value else none
  | _ => none

def mantissa? (symbols : List Char) : Option (List Char × List Char) :=
  let whole := symbols.takeWhile Char.isDigit
  match symbols.dropWhile Char.isDigit with
  | [] => some (whole, [])
  | '.' :: fraction => some (whole, fraction)
  | _ => none

def exponent? (symbols : List Char) : Option Int :=
  match symbols with
  | [] => some 0
  | _ :: symbols => do
    let (negative, digits) := Text.takeSign symbols
    let number ← Text.number? digits
    some (if negative then -(number : Int) else number)

def double? (symbols : List Char) : Option Binary64 :=
  let (negative, symbols) := Text.takeSign symbols
  let name := String.ofList (symbols.map Char.toLower)
  if name = "nan" then some Binary64.notANumber
  else if name = "inf" ∨ name = "infinity" then some (Binary64.infinite negative)
  else do
    let isMark (symbol : Char) : Bool := symbol = 'e' || symbol = 'E'
    let (whole, fraction) ← mantissa? (symbols.takeWhile (!isMark ·))
    let digits ← Text.number? (whole ++ fraction)
    let exponent ← exponent? (symbols.dropWhile (!isMark ·))
    some (Binary64.ofDecimal negative digits (exponent - fraction.length))

def ofText? (symbols : List Char) : Option FieldValue :=
  if symbols = "true".toList then some (.boolean true)
  else if symbols = "false".toList then some (.boolean false)
  else
    match natural? symbols, integer? symbols, double? symbols with
    | some value, _, _ => some (.natural value)
    | none, some value, _ => some (.integer value)
    | none, none, some value =>
      some (if value = Binary64.notANumber then .notANumber else .double value)
    | none, none, none =>
      if Pattern.isPattern symbols then some (.pattern (String.ofList symbols)) else none

/-- Patterns are the most specific values, then numbers, whole ones before others. -/
def rank : FieldValue → Nat
  | .boolean _ => 0
  | .double _ => 1
  | .notANumber => 2
  | .natural _ => 3
  | .integer _ => 4
  | .pattern _ => 5

def compare (left right : FieldValue) : Ordering :=
  match left, right with
  | .boolean left, .boolean right => Ord.compare left right
  | .double left, .double right => Ord.compare left.place right.place
  | .natural left, .natural right => Ord.compare left right
  | .integer left, .integer right => Ord.compare left right
  | .pattern left, .pattern right => Ord.compare left right
  | _, _ => Ord.compare left.rank right.rank

end FieldValue

end Debuggee.Log
