import Debuggee.Log.Pattern.CharacterClass

/-!
Which texts are patterns that values can be matched against: regular expressions that need no
tables of characters beyond seven bits and are not nested too deep. What a pattern matches is no
part of this module.
-/

namespace Debuggee.Log.Pattern

/-- One part of a branch; a change of flags is a part that cannot be repeated. -/
structure Part where
  depth : Nat := 0
  repeatable : Bool := true
  deriving DecidableEq, Repr

structure Scope where
  flags : Flags := {}
  parts : List Part := []
  branches : List Nat := []
  deriving DecidableEq, Repr

namespace Scope

def add (scope : Scope) (part : Part) : Scope :=
  { scope with parts := part :: scope.parts }

def branchDepth (scope : Scope) : Nat :=
  match scope.parts with
  | [] => 0
  | [part] => part.depth
  | parts => (parts.map Part.depth).foldl max 0 + 1

def depth (scope : Scope) : Nat :=
  if scope.branches.isEmpty then scope.branchDepth
  else scope.branches.foldl max scope.branchDepth + 1

def nextBranch (scope : Scope) : Scope :=
  { scope with parts := [], branches := scope.branchDepth :: scope.branches }

def repeatLast (scope : Scope) : Option Scope :=
  match scope.parts with
  | [] => none
  | part :: parts =>
    if part.repeatable then some { scope with parts := { depth := part.depth + 1 } :: parts }
    else none

end Scope

structure Reading where
  scope : Scope := {}
  outer : List Scope := []
  names : List (List Char) := []
  deriving DecidableEq, Repr

namespace Reading

def add (reading : Reading) (part : Part) : Reading :=
  { reading with scope := reading.scope.add part }

def openGroup (reading : Reading) (flags : Flags) : Reading :=
  { reading with scope := { flags := flags }, outer := reading.scope :: reading.outer }

def closeGroup (reading : Reading) : Option Reading :=
  match reading.outer with
  | [] => none
  | parent :: outer =>
    some { reading with
      scope := parent.add { depth := reading.scope.depth + 1 }, outer := outer }

def isGroupName (name : List Char) : Bool :=
  match name with
  | [] => false
  | first :: others =>
    (first = '_' || Text.isLetter first) &&
      others.all fun symbol =>
        ['_', '.', '[', ']'].contains symbol || Text.isLetterOrNumeral symbol

def openNamed (reading : Reading) (symbols : List Char) : Option (Reading × List Char) :=
  let name := symbols.takeWhile (· ≠ '>')
  match symbols.dropWhile (· ≠ '>') with
  | [] => none
  | _ :: rest =>
    if isGroupName name && !reading.names.contains name then
      some ({ reading.openGroup reading.scope.flags with names := name :: reading.names }, rest)
    else none

def openParenthesis (reading : Reading) (symbols : List Char) : Option (Reading × List Char) :=
  let flags := reading.scope.flags
  match flags.skip symbols with
  | '?' :: 'P' :: '<' :: rest => reading.openNamed rest
  | '?' :: '<' :: rest => reading.openNamed rest
  | '?' :: rest => do
    let (changes, closing, rest) ← readFlags false [] rest
    let changed := changes.foldl Flags.set flags
    if closing = ':' then some (reading.openGroup changed, rest)
    else if changes.isEmpty then none
    else
      some ({ reading with
        scope := { reading.scope.add { repeatable := false } with flags := changed } }, rest)
  | rest => some (reading.openGroup flags, rest)

def addEscape (reading : Reading) (escape : Escape) : Option Reading :=
  let flags := reading.scope.flags
  let allowed := match escape with
    | .literal symbol octet => flags.allowsLiteral symbol octet
    | .edge => true
    | .wordEdge => !flags.unicode
    | .kind negated => flags.allowsKind negated
  if allowed then some (reading.add {}) else none

def step (reading : Reading) (symbol : Char) (rest : List Char) :
    Option (Reading × List Char) :=
  match symbol with
  | '(' => reading.openParenthesis rest
  | ')' => reading.closeGroup.map (·, rest)
  | '|' => some ({ reading with scope := reading.scope.nextBranch }, rest)
  | '[' => do
    let (depth, rest) ← readClass reading.scope.flags rest
    some (reading.add { depth := depth }, rest)
  | '?' | '*' | '+' => do
    let scope ← reading.scope.repeatLast
    some ({ reading with scope := scope }, if rest.head? = some '?' then rest.tail else rest)
  | '\x7b' => none
  | '\\' => do
    let (escape, rest) ← readEscape reading.scope.flags rest
    (reading.addEscape escape).map (·, rest)
  | '.' => if reading.scope.flags.unicode then some (reading.add {}, rest) else none
  | '^' | '$' => some (reading.add {}, rest)
  | _ => (reading.addEscape (.literal symbol false)).map (·, rest)

/-- Reads to the end. Every step consumes a character, so their number is fuel enough. -/
def run : Nat → Reading → List Char → Option Reading
  | 0, _, _ => none
  | fuel + 1, reading, symbols =>
    match reading.scope.flags.skip symbols with
    | [] => some reading
    | symbol :: rest => do
      let (reading, rest) ← reading.step symbol rest
      run fuel reading rest

end Reading

def maxDepth : Nat := 250

/-- Whether a text without braces that close is a pattern. -/
def isPattern (symbols : List Char) : Bool :=
  match Reading.run (symbols.length + 1) {} symbols with
  | none => false
  | some reading => reading.outer.isEmpty && reading.scope.depth ≤ maxDepth

end Debuggee.Log.Pattern
