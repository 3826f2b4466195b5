/-!
Double-precision numbers in exact arithmetic: rounding a ratio to the nearest of them, and the
fewest decimal digits that read back as the same number.
-/

namespace Debuggee

/--
A double: its sign and the other sixty-three bits of its interchange format as a number. The
codes grow with the magnitude; `infiniteCode` is infinity, and what lies above it is not a number.
-/
structure Binary64 where
  negative : Bool
  code : Nat
  deriving DecidableEq, Repr

namespace Binary64

def fractionSize : Nat := 1 <<< 52

def infiniteCode : Nat := 2047 * fractionSize

def infinite (negative : Bool) : Binary64 := ⟨negative, infiniteCode⟩

def notANumber : Binary64 := ⟨false, infiniteCode + fractionSize / 2⟩

/-- The significand and the power of two whose product is the magnitude. -/
def parts (code : Nat) : Nat × Int :=
  if code / fractionSize = 0 then (code, -1074)
  else (fractionSize + code % fractionSize, (code / fractionSize : Int) - 1075)

def scaled (factor : Nat) (power : Int) : Nat × Nat :=
  (factor <<< power.toNat, 1 <<< (-power).toNat)

def ratio (code : Nat) : Nat × Nat :=
  scaled (parts code).1 (parts code).2

def roundHalfEven (numerator denominator : Nat) : Nat :=
  let floor := numerator / denominator
  let twice := 2 * (numerator % denominator)
  if twice < denominator then floor
  else if denominator < twice then floor + 1
  else floor + floor % 2

def binaryOrder (numerator denominator : Nat) : Int :=
  let guess : Int := (Nat.log2 numerator : Int) - Nat.log2 denominator
  let (power, unit) := scaled denominator guess
  if power ≤ numerator * unit then guess else guess - 1

def nearestCode (numerator denominator : Nat) : Nat :=
  if numerator = 0 then 0
  else
    let exponent := max (binaryOrder numerator denominator - 52) (-1074)
    let rounded :=
      roundHalfEven (numerator <<< (-exponent).toNat) (denominator <<< exponent.toNat)
    min infiniteCode <|
      if rounded < fractionSize then rounded
      else (exponent + 1075).toNat * fractionSize + (rounded - fractionSize)

def nearest (negative : Bool) (numerator denominator : Nat) : Binary64 :=
  ⟨negative, nearestCode numerator denominator⟩

def decimalLength (number : Nat) : Nat :=
  (Nat.toDigits 10 number).length

def ofDecimal (negative : Bool) (digits : Nat) (exponent : Int) : Binary64 :=
  if digits = 0 then ⟨negative, 0⟩
  else if 400 < exponent then infinite negative
  else if exponent + decimalLength digits < -400 then ⟨negative, 0⟩
  else nearest negative (digits * Nat.pow 10 exponent.toNat) (Nat.pow 10 (-exponent).toNat)

def timesCode (left right : Nat) : Nat :=
  nearestCode ((ratio left).1 * (ratio right).1) ((ratio left).2 * (ratio right).2)

def overCode (left right : Nat) : Nat :=
  nearestCode ((ratio left).1 * (ratio right).2) ((ratio left).2 * (ratio right).1)

structure Decimal where
  digits : Nat
  exponent : Int
  deriving DecidableEq, Repr

/-- The interval of numbers that round to a code, in quarters of the unit of its last place. -/
structure Interval where
  below : Nat
  middle : Nat
  above : Nat
  closed : Bool

def interval (significand : Nat) (code : Nat) : Interval where
  below := if significand = fractionSize ∧ fractionSize < code then 4 * significand - 1
    else 4 * significand - 2
  middle := 4 * significand
  above := 4 * significand + 2
  closed := significand % 2 = 0

/-- Ten to this power exceeds the quotient, which is not zero, and a tenth of it does not. -/
def decimalOrder (numerator denominator : Nat) : Int :=
  if denominator ≤ numerator then decimalLength (numerator / denominator)
  else
    let inverse := (denominator + numerator - 1) / numerator
    1 - (decimalLength (inverse - 1) : Int)

def withoutTrailingZeros : Nat → Decimal → Decimal
  | 0, decimal => decimal
  | fuel + 1, decimal =>
    if decimal.digits ≠ 0 ∧ decimal.digits % 10 = 0 then
      withoutTrailingZeros fuel ⟨decimal.digits / 10, decimal.exponent + 1⟩
    else decimal

structure Style where
  /-- The decimal exponents from `lowest` to `highest` are written out in full. -/
  lowest : Int
  highest : Int
  pointed : Bool
  /-- Whether the larger of two equally near decimals is taken, rather than the even one. -/
  upward : Bool

/--
The better of the two neighbours of the magnitude on the grid of multiples of `10 ^ exponent`,
if one of them rounds to the magnitude.
-/
def onGrid (upward : Bool) (code : Nat) (exponent : Int) : Option Nat :=
  let (significand, power) := parts code
  let range := interval significand code
  let unit := (4 * Nat.pow 10 exponent.toNat) <<< (-power).toNat
  let scale := Nat.pow 10 (-exponent).toNat <<< power.toNat
  let lower := range.middle * scale / unit
  let fits (candidate : Nat) : Bool :=
    if range.closed then
      range.below * scale ≤ candidate * unit && candidate * unit ≤ range.above * scale
    else range.below * scale < candidate * unit && candidate * unit < range.above * scale
  let distance (candidate : Nat) : Nat :=
    (candidate * unit - range.middle * scale) + (range.middle * scale - candidate * unit)
  let upper := lower + 1
  match fits lower, fits upper with
  | true, true =>
    if distance lower < distance upper then some lower
    else if distance upper < distance lower then some upper
    else some (if upward then upper else lower + lower % 2)
  | true, false => some lower
  | false, true => some upper
  | false, false => none

def shortestFrom (upward : Bool) (code : Nat) (order : Int) : Nat → Nat → Decimal
  | 0, count => ⟨(onGrid upward code (order - count)).getD 0, order - count⟩
  | fuel + 1, count =>
    match onGrid upward code (order - count) with
    | some digits => ⟨digits, order - count⟩
    | none => shortestFrom upward code order fuel (count + 1)

def shortest (upward : Bool) (code : Nat) : Decimal :=
  if code = 0 then ⟨0, 0⟩
  else
    let (numerator, denominator) := ratio code
    withoutTrailingZeros 20 (shortestFrom upward code (decimalOrder numerator denominator) 16 1)

def padded (width : Nat) (digits : List Char) : List Char :=
  List.replicate (width - digits.length) '0' ++ digits

def positional (style : Style) (decimal : Decimal) : List Char :=
  let digits := Nat.toDigits 10 decimal.digits
  if 0 ≤ decimal.exponent then
    digits ++ List.replicate decimal.exponent.toNat '0' ++
      (if style.pointed then ['.', '0'] else [])
  else
    let places := (-decimal.exponent).toNat
    let full := padded (places + 1) digits
    full.take (full.length - places) ++ '.' :: full.drop (full.length - places)

def scientific (decimal : Decimal) : List Char :=
  let digits := Nat.toDigits 10 decimal.digits
  let exponent := decimal.exponent + digits.length - 1
  let mantissa := match digits with
    | [] => []
    | [only] => [only]
    | first :: others => first :: '.' :: others
  mantissa ++ 'e' :: (if exponent < 0 then '-' else '+') :: Nat.toDigits 10 exponent.natAbs

def render (style : Style) (number : Binary64) : String :=
  if infiniteCode < number.code then "NaN"
  else
    let magnitude :=
      if number.code = infiniteCode then ['i', 'n', 'f']
      else
        let decimal := shortest style.upward number.code
        let order := decimal.exponent + decimalLength decimal.digits - 1
        if style.lowest ≤ order ∧ order ≤ style.highest then positional style decimal
        else scientific decimal
    String.ofList (if number.negative then '-' :: magnitude else magnitude)

def place (number : Binary64) : Int :=
  if number.negative then -(number.code : Int) else number.code

end Binary64

end Debuggee
