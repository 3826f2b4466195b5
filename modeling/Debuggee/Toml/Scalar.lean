import Debuggee.Toml.Table
import Debuggee.Text.Digits

/-!
Words of a configuration document that stand for a value: numbers, truth values and moments. A
word is a longest run of the characters that numbers and moments are made of, so it is one value
as a whole or none.
-/

namespace Debuggee.Toml

def isWordPart (symbol : Char) : Bool :=
  symbol.isAlphanum || ['+', '-', '_', '.', ':'].contains symbol

def digitValue? (symbol : Char) : Option Nat :=
  if symbol.isDigit then some (symbol.toNat - 48)
  else if 'a' ≤ symbol ∧ symbol ≤ 'f' then some (symbol.toNat - 87)
  else if 'A' ≤ symbol ∧ symbol ≤ 'F' then some (symbol.toNat - 55)
  else none

def digits? (base : Nat) : List Char → Option (List Nat)
  | [] => none
  | [symbol] => do
    let digit ← digitValue? symbol
    if digit < base then some [digit] else none
  | symbol :: '_' :: symbols => do
    let digit ← digitValue? symbol
    if digit < base then some (digit :: (← digits? base symbols)) else none
  | symbol :: symbols => do
    let digit ← digitValue? symbol
    if digit < base then some (digit :: (← digits? base symbols)) else none

def ofDigits (base : Nat) (digits : List Nat) : Nat :=
  digits.foldl (fun total digit => base * total + digit) 0

def wholeDigits? (symbols : List Char) : Option (List Nat) := do
  let digits ← digits? 10 symbols
  if digits.head? = some 0 ∧ 1 < digits.length then none else some digits

def integer? (word : List Char) : Option Int := do
  let value : Int ← match word with
    | '0' :: 'x' :: symbols => (digits? 16 symbols).map fun digits => (ofDigits 16 digits : Int)
    | '0' :: 'o' :: symbols => (digits? 8 symbols).map fun digits => (ofDigits 8 digits : Int)
    | '0' :: 'b' :: symbols => (digits? 2 symbols).map fun digits => (ofDigits 2 digits : Int)
    | _ =>
      let (negative, symbols) := Text.takeSign word
      (wholeDigits? symbols).map fun digits =>
        if negative then -(ofDigits 10 digits : Int) else ofDigits 10 digits
  if Int64.minValue.toInt ≤ value ∧ value ≤ Int64.maxValue.toInt then some value else none

def splitAtAny (marks : List Char) (symbols : List Char) : List Char × Option (List Char) :=
  match symbols.dropWhile fun symbol => !marks.contains symbol with
  | [] => (symbols, none)
  | _ :: later => (symbols.takeWhile fun symbol => !marks.contains symbol, some later)

/--
A number with a fraction, an exponent or both. One that rounds to positive infinity is none,
while one that rounds to negative infinity is kept.
-/
def decimal? (word : List Char) : Option Binary64 := do
  let (negative, symbols) := Text.takeSign word
  let (mantissa, exponent) := splitAtAny ['e', 'E'] symbols
  let (whole, fraction) := splitAtAny ['.'] mantissa
  if exponent.isNone ∧ fraction.isNone then none
  else
    let whole ← wholeDigits? whole
    let fraction ← match fraction with
      | none => some []
      | some symbols => digits? 10 symbols
    let exponent : Int ← match exponent with
      | none => some 0
      | some symbols =>
        let (negative, symbols) := Text.takeSign symbols
        (digits? 10 symbols).map fun digits =>
          if negative then -(ofDigits 10 digits : Int) else ofDigits 10 digits
    let number :=
      Binary64.ofDecimal negative (ofDigits 10 (whole ++ fraction)) (exponent - fraction.length)
    if number = Binary64.infinite false then none else some number

def double? (word : List Char) : Option Binary64 :=
  let (negative, symbols) := Text.takeSign word
  match symbols with
  | ['i', 'n', 'f'] => some (Binary64.infinite negative)
  | ['n', 'a', 'n'] => some Binary64.notANumber
  | _ => decimal? word

def plainNumber? (symbols : List Char) : Option Nat :=
  if symbols.all Char.isDigit then
    some (symbols.foldl (fun total symbol => 10 * total + (symbol.toNat - 48)) 0)
  else none

def isLeapYear (year : Nat) : Bool :=
  year % 4 = 0 && (year % 100 ≠ 0 || year % 400 = 0)

def daysOfMonth (year month : Nat) : Nat :=
  if month = 2 then (if isLeapYear year then 29 else 28)
  else if month = 4 ∨ month = 6 ∨ month = 9 ∨ month = 11 then 30
  else 31

def isDay (symbols : List Char) : Bool :=
  match symbols with
  | [y, e, a, r, '-', m, o, '-', d, n] =>
    match plainNumber? [y, e, a, r], plainNumber? [m, o], plainNumber? [d, n] with
    | some year, some month, some day =>
      1 ≤ month && month ≤ 12 && 1 ≤ day && day ≤ daysOfMonth year month
    | _, _, _ => false
  | _ => false

def below (symbols : List Char) (limit : Nat) : Bool :=
  match plainNumber? symbols with
  | some number => number < limit
  | none => false

def isOffset (symbols : List Char) : Bool :=
  match symbols with
  | ['Z'] | ['z'] => true
  | [sign, h, o, ':', m, i] => (sign = '+' || sign = '-') && below [h, o] 24 && below [m, i] 60
  | _ => false

def isTime (afterDay : Bool) (symbols : List Char) : Bool :=
  match symbols with
  | h :: o :: ':' :: m :: i :: ':' :: s :: e :: later =>
    let (fraction, offset) := match later with
      | '.' :: later => (some (later.takeWhile Char.isDigit), later.dropWhile Char.isDigit)
      | _ => (none, later)
    below [h, o] 24 && below [m, i] 60 && below [s, e] 61 && fraction ≠ some [] &&
      (offset.isEmpty || (afterDay && isOffset offset))
  | _ => false

def isMoment (symbols : List Char) : Bool :=
  isTime false symbols || isDay symbols ||
    (isDay (symbols.take 10) &&
      match symbols.drop 10 with
      | mark :: time => ['T', 't', ' '].contains mark && isTime true time
      | [] => false)

def scalar? (word : List Char) : Option Item :=
  match word with
  | ['t', 'r', 'u', 'e'] => some (.boolean true)
  | ['f', 'a', 'l', 's', 'e'] => some (.boolean false)
  | _ =>
    ((integer? word).map .integer).or <|
      ((double? word).map .double).or <|
      if isMoment word then some (.moment (String.ofList word)) else none

def readScalar (input : List Char) : Option (Item × List Char) := do
  let word := input.takeWhile isWordPart
  let rest := input.dropWhile isWordPart
  match isDay word, rest with
  | true, ' ' :: later =>
    if (later.takeWhile isWordPart).isEmpty then some (.moment (String.ofList word), rest)
    else
      let item ← scalar? (word ++ ' ' :: later.takeWhile isWordPart)
      some (item, later.dropWhile isWordPart)
  | _, _ =>
    let item ← scalar? word
    some (item, rest)

end Debuggee.Toml
