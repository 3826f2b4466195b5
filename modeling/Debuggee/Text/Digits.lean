/-! Decimal numbers in texts. -/

namespace Debuggee.Text

def takeSign : List Char → Bool × List Char
  | '-' :: symbols => (true, symbols)
  | '+' :: symbols => (false, symbols)
  | symbols => (false, symbols)

def number? (symbols : List Char) : Option Nat :=
  if symbols.isEmpty || !symbols.all Char.isDigit then none
  else some (symbols.foldl (fun total digit => 10 * total + (digit.toNat - 48)) 0)

end Debuggee.Text
