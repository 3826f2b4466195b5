import Debuggee.Log.Pattern.Flag
import Debuggee.Bytes

/-!
What a backslash in a pattern and the characters behind it stand for. A closing brace ends the
field that a pattern belongs to, so a code or a name in braces is never complete.
-/

namespace Debuggee.Log.Pattern

inductive Escape where
  /-- A character; `octet` says that it is given as two digits. -/
  | literal (symbol : Char) (octet : Bool)
  | edge
  | wordEdge
  | kind (negated : Bool)
  deriving DecidableEq, Repr

def readDigits (flags : Flags) : Nat → Nat → List Char → Option (Nat × List Char)
  | 0, value, symbols => some (value, symbols)
  | count + 1, value, symbols =>
    match flags.skip symbols with
    | [] => none
    | symbol :: rest => do
      let digit ← if symbol.toNat < 128 then Bytes.hexValue? symbol.toNat.toUInt8 else none
      readDigits flags count (16 * value + digit) rest

def readCode (flags : Flags) (count : Nat) (symbols : List Char) :
    Option (Escape × List Char) := do
  let (value, rest) ← readDigits flags count 0 symbols
  if value.isValidChar then some (.literal (Char.ofNat value) (count = 2), rest) else none

def control? (letter : Char) : Option Char :=
  match letter with
  | 'a' => some '\x07'
  | 'f' => some '\x0c'
  | 't' => some '\t'
  | 'n' => some '\n'
  | 'r' => some '\r'
  | 'v' => some '\x0b'
  | _ => none

/--
The characters that stand for themselves behind a backslash. Letters and digits are kept for
escapes, and the angle brackets are edges of words.
-/
def isEscapable (symbol : Char) : Bool :=
  symbol.toNat < 128 && !symbol.isAlphanum && symbol ≠ '<' && symbol ≠ '>'

/-- What stands behind a backslash. There are no tables for the properties of characters. -/
def readEscape (flags : Flags) : List Char → Option (Escape × List Char)
  | [] => none
  | symbol :: rest =>
    match symbol with
    | 'x' => readCode flags 2 rest
    | 'u' => readCode flags 4 rest
    | 'U' => readCode flags 8 rest
    | 'd' | 's' | 'w' => some (.kind false, rest)
    | 'D' | 'S' | 'W' => some (.kind true, rest)
    | 'A' | 'z' => some (.edge, rest)
    | 'b' => if rest.head? = some '\x7b' then none else some (.wordEdge, rest)
    | 'B' | '<' | '>' => some (.wordEdge, rest)
    | _ =>
      if isEscapable symbol then some (.literal symbol false, rest)
      else (control? symbol).map fun control => (.literal control false, rest)

end Debuggee.Log.Pattern
