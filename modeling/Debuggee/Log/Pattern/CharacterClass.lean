import Debuggee.Log.Pattern.Escape

/-!
Classes of characters in patterns: members in brackets, classes within classes, and the three
operators between them. Reading tells how deep the classes are nested, and what follows them.
-/

namespace Debuggee.Log.Pattern

structure OpenClass where
  /-- How deep the operand in front of the last operator is nested, if there is an operator. -/
  operand : Option Nat := none
  members : List Nat := []
  deriving DecidableEq, Repr

namespace OpenClass

def add (opened : OpenClass) (depth : Nat) : OpenClass :=
  { opened with members := depth :: opened.members }

def unionDepth : List Nat → Nat
  | [] => 0
  | [depth] => depth
  | depths => depths.foldl max 0 + 1

def depth (opened : OpenClass) : Nat :=
  match opened.operand with
  | none => unionDepth opened.members
  | some operand => max operand (unionDepth opened.members) + 1

end OpenClass

def isClassName (name : List Char) : Bool :=
  ["alnum", "alpha", "ascii", "blank", "cntrl", "digit", "graph", "lower", "print", "punct",
    "space", "upper", "word", "xdigit"].contains (String.ofList name)

def readNamed (symbols : List Char) : Option (Bool × List Char) :=
  match symbols with
  | ':' :: rest =>
    let negated := rest.head? = some '^'
    let rest := if negated then rest.tail else rest
    match rest.dropWhile (· ≠ ':') with
    | ':' :: ']' :: later =>
      if isClassName (rest.takeWhile (· ≠ ':')) then some (negated, later) else none
    | _ => none
  | _ => none

/-- Hyphens at the start of a class stand for themselves. -/
def readHyphens (flags : Flags) : Nat → OpenClass → List Char → Option (OpenClass × List Char)
  | 0, _, _ => none
  | fuel + 1, opened, symbols =>
    match flags.skip symbols with
    | [] => none
    | '-' :: rest =>
      if flags.allowsMember '-' then readHyphens flags fuel (opened.add 0) rest else none
    | rest => some (opened, rest)

/--
The start of a class behind its bracket. The members that are left out are too many for a class of
octets. A closing bracket that comes first is a member.
-/
def readOpening (flags : Flags) (symbols : List Char) : Option (OpenClass × List Char) := do
  let symbols := flags.skip symbols
  let negated := symbols.head? = some '^'
  if negated ∧ !flags.unicode then none
  else
    let (opened, rest) ←
      readHyphens flags (symbols.length + 1) {} (if negated then symbols.tail else symbols)
    match opened.members, rest with
    | [], ']' :: rest =>
      let rest := flags.skip rest
      if flags.allowsMember ']' ∧ !rest.isEmpty then some (opened.add 0, rest) else none
    | _, _ => some (opened, rest)

def readMember (flags : Flags) : List Char → Option (Escape × List Char)
  | [] => none
  | '\\' :: rest => readEscape flags rest
  | symbol :: rest => some (.literal symbol false, rest)

/-- The character behind a hyphen; of the blanks and comments there, one number sign is not seen. -/
def behindHyphen (flags : Flags) (symbols : List Char) : Option Char :=
  if flags.verbose then
    match symbols.dropWhile Text.isBlank with
    | '#' :: later => (later.dropWhile Text.isBlank).head?
    | rest => rest.head?
  else symbols.head?

def readRange (flags : Flags) (symbols : List Char) : Option (List Char) := do
  let (first, rest) ← readMember flags symbols
  let rest := flags.skip rest
  let isRange : Bool := match rest with
    | '-' :: later => !([some ']', some '-'].contains (behindHyphen flags later))
    | _ => false
  match first with
  | .literal lower _ =>
    if !flags.allowsMember lower then none
    else if isRange then
      let (last, rest) ← readMember flags (flags.skip rest.tail)
      match last with
      | .literal upper _ => if lower ≤ upper ∧ flags.allowsMember upper then some rest else none
      | _ => none
    else some rest
  | .kind negated => if isRange ∨ !flags.allowsKind negated then none else some rest
  | _ => none

def isOperator (first second : Char) : Bool :=
  first = second && ['&', '-', '~'].contains first

inductive ClassStep where
  | inside (opened : OpenClass) (outer : List OpenClass) (rest : List Char)
  | closed (depth : Nat) (rest : List Char)

def readClassStep (flags : Flags) (opened : OpenClass) (outer : List OpenClass) :
    List Char → Option ClassStep
  | [] => none
  | '[' :: rest =>
    match readNamed rest with
    | some (negated, later) =>
      if !flags.allowsMember 'a' ∨ (negated ∧ !flags.unicode) then none
      else some (.inside (opened.add 0) outer later)
    | none => do
      let (inner, later) ← readOpening flags rest
      some (.inside inner (opened :: outer) later)
  | ']' :: rest =>
    match outer with
    | [] => some (.closed (opened.depth + 1) rest)
    | parent :: outer => some (.inside (parent.add (opened.depth + 1)) outer rest)
  | symbol :: rest =>
    if rest.head?.any (isOperator symbol) then
      some (.inside { operand := some opened.depth } outer rest.tail)
    else do
      let later ← readRange flags (symbol :: rest)
      some (.inside (opened.add 0) outer later)

def readMembers (flags : Flags) :
    Nat → OpenClass → List OpenClass → List Char → Option (Nat × List Char)
  | 0, _, _, _ => none
  | fuel + 1, opened, outer, symbols => do
    match ← readClassStep flags opened outer (flags.skip symbols) with
    | .inside opened outer rest => readMembers flags fuel opened outer rest
    | .closed depth rest => some (depth, rest)

def readClass (flags : Flags) (symbols : List Char) : Option (Nat × List Char) := do
  let (opened, rest) ← readOpening flags symbols
  readMembers flags (rest.length + 1) opened [] rest

end Debuggee.Log.Pattern
