/-! White space of the Unicode standard, and texts without it at either end. -/

namespace Debuggee.Text

/-- The twenty-five characters with the property White_Space. -/
def isBlank (symbol : Char) : Bool :=
  let code := symbol.toNat
  (9 ≤ code && code ≤ 13) || code == 0x20 || code == 0x85 || code == 0xA0 || code == 0x1680 ||
    (0x2000 ≤ code && code ≤ 0x200A) || code == 0x2028 || code == 0x2029 || code == 0x202F ||
    code == 0x205F || code == 0x3000

def trimEnd (keep : Char → Bool) (symbols : List Char) : List Char :=
  (symbols.reverse.dropWhile keep).reverse

def trimList (symbols : List Char) : List Char :=
  trimEnd isBlank (symbols.dropWhile isBlank)

def trim (text : String) : String :=
  String.ofList (trimList text.toList)

end Debuggee.Text
