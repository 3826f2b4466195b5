import Debuggee.Toml.Quoted

/-!
Reading a configuration document: statements line by line, values with lists and braces in them,
and the table that all of it gives.
-/

namespace Debuggee.Toml

/-- Names have fewer parts than this, and lists and braces are nested less deep. -/
def levelLimit : Nat := 80

def skipBlanks (input : List Char) : List Char :=
  input.dropWhile isBlank

def skipComment : List Char → List Char
  | '#' :: rest => rest.dropWhile isPlain
  | rest => rest

def endLine (input : List Char) : Option (List Char) :=
  match skipComment (skipBlanks input) with
  | [] => some []
  | '\n' :: rest => some rest
  | '\r' :: '\n' :: rest => some rest
  | _ => none

def skipLines (comment : Bool) : List Char → Option (List Char)
  | [] => if comment then none else some []
  | symbol :: rest =>
    if symbol = '\n' then skipLines false rest
    else if symbol = '\r' then if rest.head? = some '\n' then skipLines false rest else none
    else if comment then if isPlain symbol then skipLines true rest else none
    else if isBlank symbol then skipLines false rest
    else if symbol = '#' then skipLines true rest
    else some (symbol :: rest)

def isNamePart (symbol : Char) : Bool :=
  symbol.isAlphanum || symbol = '-' || symbol = '_'

def readPart (input : List Char) : Option (String × List Char) :=
  match input.takeWhile isNamePart with
  | [] => readLineText input
  | symbols => some (String.ofList symbols, input.dropWhile isNamePart)

def readParts : Nat → List Char → Option (List String × List Char)
  | 0, _ => none
  | fuel + 1, input => do
    let (part, rest) ← readPart (skipBlanks input)
    match skipBlanks rest with
    | '.' :: rest =>
      let (parts, rest) ← readParts fuel rest
      some (part :: parts, rest)
    | rest => some ([part], rest)

def readName (input : List Char) : Option ((List String × String) × List Char) := do
  let (parts, rest) ← readParts (input.length + 1) input
  if levelLimit ≤ parts.length then none
  else
    let last ← parts.getLast?
    some ((parts.dropLast, last), rest)

mutual

def readValue : Nat → Nat → List Char → Option (Item × List Char)
  | 0, _, _ => none
  | fuel + 1, levels, input =>
    match input, levels with
    | '[' :: _, 0 => none
    | '\x7b' :: _, 0 => none
    | '[' :: rest, levels + 1 => do
      let (items, rest) ← readItems fuel levels rest
      some (.list items, rest)
    | '\x7b' :: rest, levels + 1 =>
      match skipBlanks rest with
      | '\x7d' :: rest => some (.table .braces [], rest)
      | rest => do
        let (lines, rest) ← readPairs fuel levels rest
        let entries ← Entries.assignAll [] lines
        some (.table .braces entries, rest)
    | '"' :: _, _ | '\'' :: _, _ => do
      let (text, rest) ← readText input
      some (.text text, rest)
    | _, _ => readScalar input

def readItems : Nat → Nat → List Char → Option (List Item × List Char)
  | 0, _, _ => none
  | fuel + 1, levels, input => do
    match ← skipLines false input with
    | ']' :: rest => some ([], rest)
    | rest =>
      let (item, rest) ← readValue fuel levels rest
      match ← skipLines false rest with
      | ']' :: rest => some ([item], rest)
      | ',' :: rest =>
        let (items, rest) ← readItems fuel levels rest
        some (item :: items, rest)
      | _ => none

def readPairs : Nat → Nat → List Char → Option (List Assignment × List Char)
  | 0, _, _ => none
  | fuel + 1, levels, input => do
    let ((path, name), rest) ← readName input
    match rest with
    | '=' :: rest =>
      let (item, rest) ← readValue fuel levels (skipBlanks rest)
      match skipBlanks rest with
      | '\x7d' :: rest => some ([⟨path, name, item⟩], rest)
      | ',' :: rest =>
        let (lines, rest) ← readPairs fuel levels rest
        some (⟨path, name, item⟩ :: lines, rest)
      | _ => none
    | _ => none

end

def readHeading (input : List Char) : Option (Heading × List Char) := do
  match input with
  | '[' :: '[' :: rest =>
    let ((path, name), rest) ← readName rest
    match rest with
    | ']' :: ']' :: rest => some (⟨path, name, true⟩, rest)
    | _ => none
  | '[' :: rest =>
    let ((path, name), rest) ← readName rest
    match rest with
    | ']' :: rest => some (⟨path, name, false⟩, rest)
    | _ => none
  | _ => none

def readAssignment (input : List Char) : Option (Assignment × List Char) := do
  let ((path, name), rest) ← readName input
  match rest with
  | '=' :: rest =>
    let (item, rest) ← readValue (2 * rest.length + 2) (levelLimit - 1) (skipBlanks rest)
    some (⟨path, name, item⟩, rest)
  | _ => none

def readLine (input : List Char) : Option (Option Statement × List Char) := do
  match input with
  | '[' :: _ =>
    let (heading, rest) ← readHeading input
    some (some (.heading heading), ← endLine rest)
  | _ =>
    match endLine input with
    | some rest => some (none, rest)
    | none =>
      let (line, rest) ← readAssignment input
      some (some (.assignment line), ← endLine rest)

def readStatements : Nat → List Char → Option (List Statement)
  | 0, _ => none
  | fuel + 1, input =>
    match skipBlanks input with
    | [] => some []
    | input => do
      let (statement, rest) ← readLine input
      let statements ← readStatements fuel rest
      some (statement.toList ++ statements)

def readDocument (text : String) : Option Entries := do
  let input := match text.toList with
    | '\uFEFF' :: input => input
    | input => input
  Entries.ofStatements (← readStatements (input.length + 1) input)

end Debuggee.Toml
