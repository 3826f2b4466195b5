import Debuggee.Toml.Scalar

/-!
Quoted texts of a configuration document. Between double quotes a backslash starts an escape,
between single quotes it stands for itself. Three quotes enclose a text of several lines, whose
line breaks are read as line feeds whatever they were.
-/

namespace Debuggee.Toml

def isPlain (symbol : Char) : Bool :=
  symbol = '\t' || (0x20 ≤ symbol.toNat && symbol.toNat ≠ 0x7F)

def isBlank (symbol : Char) : Bool :=
  symbol = ' ' || symbol = '\t'

def escaped? (symbol : Char) : Option Char :=
  match symbol with
  | 'b' => some '\x08'
  | 't' => some '\t'
  | 'n' => some '\n'
  | 'f' => some '\x0c'
  | 'r' => some '\r'
  | '"' => some '"'
  | '\\' => some '\\'
  | _ => none

/-- The character of a code point; none for the codes that pair up to one. -/
def charOf? (code : Nat) : Option Char :=
  if code.isValidChar then some (Char.ofNat code) else none

inductive Place where
  | inside
  | escape
  | code (left : Nat) (value : Nat)
  /-- Behind a backslash and blanks that must end their line. -/
  | beforeBreak
  /-- Behind such a line end, where blanks and further line ends do not count. -/
  | afterBreak
  deriving DecidableEq, Repr

def keep (symbol : Char) (later : Option (List Char × List Char)) :
    Option (List Char × List Char) :=
  later.map fun (symbols, rest) => (symbol :: symbols, rest)

/--
What follows a quote in a text of several lines, if the text ends there: three quotes close it,
and one or two more directly before them belong to it.
-/
def closing? (quote : Char) (rest : List Char) : Option (List Char × List Char) :=
  let run := (rest.takeWhile (· = quote)).length
  if run < 2 then none
  else some (List.replicate (min run 4 - 2) quote, rest.drop (min run 4))

def readEscaped (lines : Bool) : Place → List Char → Option (List Char × List Char)
  | _, [] => none
  | .code left value, symbol :: rest => do
    let value := 16 * value + (← digitValue? symbol)
    if left ≤ 1 then
      keep (← charOf? value) (readEscaped lines .inside rest)
    else readEscaped lines (.code (left - 1) value) rest
  | .escape, symbol :: rest =>
    match escaped? symbol with
    | some meant => keep meant (readEscaped lines .inside rest)
    | none =>
      if symbol = 'u' then readEscaped lines (.code 4 0) rest
      else if symbol = 'U' then readEscaped lines (.code 8 0) rest
      else if lines && isBlank symbol then readEscaped lines .beforeBreak rest
      else if lines && symbol = '\n' then readEscaped lines .afterBreak rest
      else if lines && symbol = '\r' && rest.head? = some '\n' then
        readEscaped lines .afterBreak rest
      else none
  | .beforeBreak, symbol :: rest =>
    if isBlank symbol then readEscaped lines .beforeBreak rest
    else if symbol = '\n' then readEscaped lines .afterBreak rest
    else if symbol = '\r' && rest.head? = some '\n' then readEscaped lines .afterBreak rest
    else none
  | place, symbol :: rest =>
    if place = .afterBreak && (isBlank symbol || symbol = '\n') then
      readEscaped lines .afterBreak rest
    else if symbol = '\r' && lines && rest.head? = some '\n' then
      readEscaped lines place rest
    else if symbol = '\\' then readEscaped lines .escape rest
    else if symbol = '"' then
      if !lines then some ([], rest)
      else (closing? '"' rest).or (keep symbol (readEscaped lines .inside rest))
    else if isPlain symbol || (lines && symbol = '\n') then
      keep symbol (readEscaped lines .inside rest)
    else none

def readVerbatim (lines : Bool) : List Char → Option (List Char × List Char)
  | [] => none
  | symbol :: rest =>
    if symbol = '\'' then
      if !lines then some ([], rest)
      else (closing? '\'' rest).or (keep symbol (readVerbatim lines rest))
    else if symbol = '\r' && lines && rest.head? = some '\n' then readVerbatim lines rest
    else if isPlain symbol || (lines && symbol = '\n') then
      keep symbol (readVerbatim lines rest)
    else none

def skipBreak : List Char → List Char
  | '\n' :: rest => rest
  | '\r' :: '\n' :: rest => rest
  | rest => rest

def readLineText (input : List Char) : Option (String × List Char) := do
  let (symbols, rest) ← match input with
    | '"' :: rest => readEscaped false .inside rest
    | '\'' :: rest => readVerbatim false rest
    | _ => none
  some (String.ofList symbols, rest)

def readText (input : List Char) : Option (String × List Char) := do
  match input with
  | '"' :: '"' :: '"' :: rest =>
    let (symbols, rest) ← readEscaped true .inside (skipBreak rest)
    some (String.ofList symbols, rest)
  | '\'' :: '\'' :: '\'' :: rest =>
    let (symbols, rest) ← readVerbatim true (skipBreak rest)
    some (String.ofList symbols, rest)
  | _ => readLineText input

end Debuggee.Toml
