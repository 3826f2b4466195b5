import Debuggee.Text.Unprinted

/-!
Texts as diagnostics quote them: in double quotes, on one line, with every character that would
not be visible written as a code.
-/

namespace Debuggee.Text

def quotedSymbol (symbol : Char) : List Char :=
  if symbol = '\"' then ['\\', '\"']
  else if symbol = '\\' then ['\\', '\\']
  else if symbol = '\n' then ['\\', 'n']
  else if symbol = '\r' then ['\\', 'r']
  else if symbol = '\t' then ['\\', 't']
  else if symbol = Char.ofNat 0 then ['\\', '0']
  else if symbol.toNat < 32 || isUnprinted symbol then
    ['\\', 'u', '\x7b'] ++ Nat.toDigits 16 symbol.toNat ++ ['\x7d']
  else [symbol]

def quotedList (symbols : List Char) : List Char :=
  '\"' :: (symbols.flatMap quotedSymbol ++ ['\"'])

def quoted (text : String) : String :=
  String.ofList (quotedList text.toList)

end Debuggee.Text
