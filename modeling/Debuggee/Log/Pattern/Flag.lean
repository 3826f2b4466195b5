import Debuggee.Text.Letter
import Debuggee.Text.Blank

/-!
Flags of patterns. A flag is in force for the rest of the group that it stands in, or for a group
of its own. In a verbose pattern white space and comments are passed over.
-/

namespace Debuggee.Log.Pattern

inductive Flag where
  | ignoreCase
  | manyLines
  | dotForAll
  | swapGreed
  | unicode
  | carriageReturns
  | verbose
  deriving DecidableEq, Repr

def Flag.ofLetter? (letter : Char) : Option Flag :=
  match letter with
  | 'i' => some .ignoreCase
  | 'm' => some .manyLines
  | 's' => some .dotForAll
  | 'U' => some .swapGreed
  | 'u' => some .unicode
  | 'R' => some .carriageReturns
  | 'x' => some .verbose
  | _ => none

/-- The flags that decide what a pattern may hold; the others only decide what it matches. -/
structure Flags where
  ignoreCase : Bool := false
  unicode : Bool := true
  verbose : Bool := false
  deriving DecidableEq, Repr

namespace Flags

def set (flags : Flags) (change : Flag × Bool) : Flags :=
  match change.1 with
  | .ignoreCase => { flags with ignoreCase := change.2 }
  | .unicode => { flags with unicode := change.2 }
  | .verbose => { flags with verbose := change.2 }
  | _ => flags

/--
Whether a character may stand for itself. There are no tables of cases beyond seven bits, and an
octet beyond seven bits is no character.
-/
def allowsLiteral (flags : Flags) (symbol : Char) (octet : Bool) : Bool :=
  if flags.unicode then !flags.ignoreCase else !octet || symbol.toNat < 128

def allowsMember (flags : Flags) (symbol : Char) : Bool :=
  if flags.unicode then !flags.ignoreCase else symbol.toNat < 128

/--
Whether the class of digits, of blanks or of word characters may stand. There are no tables for
those of all scripts, and the others of seven bits must not reach beyond them.
-/
def allowsKind (flags : Flags) (negated : Bool) : Bool :=
  !flags.unicode && !negated

end Flags

/--
The flags up to the end of their list, which is a colon or a parenthesis. None may be named twice,
and one minus sign, with flags behind it, turns off those.
-/
def readFlags (negated : Bool) (changes : List (Flag × Bool)) :
    List Char → Option (List (Flag × Bool) × Char × List Char)
  | [] => none
  | symbol :: rest =>
    if symbol = ':' ∨ symbol = ')' then
      if negated ∧ changes.all (·.2) then none else some (changes.reverse, symbol, rest)
    else if symbol = '-' then if negated then none else readFlags true changes rest
    else do
      let flag ← Flag.ofLetter? symbol
      if changes.any fun change => change.1 = flag then none
      else readFlags negated ((flag, !negated) :: changes) rest

def skipBlanks (comment : Bool) : List Char → List Char
  | [] => []
  | symbol :: rest =>
    if comment then skipBlanks (symbol ≠ '\n') rest
    else if symbol = '#' then skipBlanks true rest
    else if Text.isBlank symbol then skipBlanks false rest
    else symbol :: rest

def Flags.skip (flags : Flags) (symbols : List Char) : List Char :=
  if flags.verbose then skipBlanks false symbols else symbols

end Debuggee.Log.Pattern
