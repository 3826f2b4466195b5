import Debuggee.Log.FieldValue
import Debuggee.Text.Letter

/-!
Directives of a log filter. A directive gives a level to what is logged for a target, or to what
is logged inside a span, and to everything if it names neither.
-/

namespace Debuggee.Log

structure FieldMatch where
  name : String
  value : Option FieldValue
  deriving DecidableEq, Repr

structure Directive where
  target : Option String := none
  span : Option String := none
  field : Option FieldMatch := none
  level : Level := .trace
  deriving DecidableEq, Repr

namespace Directive

def isDynamic (directive : Directive) : Bool :=
  directive.span.isSome || directive.field.isSome

def hasValue (directive : Directive) : Bool :=
  directive.field.any (·.value.isSome)

/-- Where the reading of a directive stands; positions are the octets where a part began. -/
inductive Place where
  | start
  | name (start : Nat)
  | span (start : Nat)
  | field (start : Nat)
  | closing
  | target
  | level (start : Nat)
  deriving DecidableEq, Repr

structure Reading where
  place : Place := .start
  position : Nat := 0
  directive : Directive := {}
  deriving Repr

def mayStart (symbol : Char) : Bool :=
  ['-', ':', '_'].contains symbol || Text.isLetterOrNumeral symbol

/-- The first octets of a text and the others; there is no cut within a character. -/
def splitOctets? : List Char → Nat → Option (List Char × List Char)
  | symbols, 0 => some ([], symbols)
  | [], _ + 1 => none
  | symbol :: symbols, count + 1 =>
    if symbol.utf8Size ≤ count + 1 then do
      let (front, rest) ← splitOctets? symbols (count + 1 - symbol.utf8Size)
      some (symbol :: front, rest)
    else none

def part? (text : List Char) (start stop : Nat) : Option (List Char) := do
  let (_, rest) ← splitOctets? text start
  let (part, _) ← splitOctets? rest (stop - start)
  some part

/-- A name, and a value behind an equals sign; what follows a second one does not count. -/
def fieldOf? (symbols : List Char) : Option FieldMatch :=
  let name := String.ofList (symbols.takeWhile (· ≠ '='))
  match symbols.dropWhile (· ≠ '=') with
  | [] => some ⟨name, none⟩
  | _ :: value => do
    let value ← FieldValue.ofText? (value.takeWhile (· ≠ '='))
    some ⟨name, some value⟩

def Reading.step (text : List Char) (reading : Reading) (symbol : Char) : Option Reading :=
  let position := reading.position
  let directive := reading.directive
  let next (place : Place) (directive : Directive) : Option Reading :=
    some ⟨place, position + symbol.utf8Size, directive⟩
  match reading.place with
  | .start =>
    if symbol = '[' then next (.span (position + 1)) directive
    else if mayStart symbol then next (.name position) directive
    else none
  | .name start =>
    if symbol = '=' ∨ symbol = '[' then do
      let target ← part? text start position
      next (if symbol = '=' then .level (position + 1) else .span (position + 1))
        { directive with target := some (String.ofList target) }
    else next (.name start) directive
  | .span start =>
    if symbol = ']' then do
      let span ← part? text start position
      next .target { directive with span := some (String.ofList span) }
    else if symbol = '\x7b' then do
      let span ← part? text start position
      next (.field (position + 1))
        { directive with span := if span.isEmpty then none else some (String.ofList span) }
    else next (.span start) directive
  | .field start =>
    if symbol = '\x7d' then do
      let field ← part? text start position
      if field.isEmpty then none
      else
        let field ← fieldOf? field
        next .closing { directive with field := some field }
    else next (.field start) directive
  | .closing => if symbol = ']' then next .target directive else none
  | .target => if symbol = '=' then next (.level (position + 1)) directive else none
  | .level start => next (.level start) directive

def levelOf? (word : List Char) : Option Level :=
  if word.isEmpty then some .trace else Level.ofWord? word

def Reading.finish (text : List Char) (reading : Reading) : Option Directive :=
  match reading.place with
  | .name start => do
    let (_, word) ← splitOctets? text start
    match levelOf? word with
    | some level => some { reading.directive with level := level }
    | none => some { reading.directive with target := some (String.ofList word) }
  | .level start => do
    let (_, word) ← splitOctets? text start
    let level ← levelOf? word
    some { reading.directive with level := level }
  | .target => some reading.directive
  | _ => none

/--
Reads one directive. White space around it is passed over in counting positions, but the parts
are cut out of the text as it is.
-/
def ofText? (text : List Char) : Option Directive := do
  let reading ← (Text.trimList text).foldlM (Reading.step text) {}
  reading.finish text

def FieldMatch.text (field : FieldMatch) : String :=
  field.name ++ field.value.elim "" ("=" ++ ·.text)

def text (directive : Directive) : String :=
  let target := directive.target.getD ""
  let span :=
    if directive.isDynamic then
      "[" ++ directive.span.getD "" ++
        directive.field.elim "" (fun field => "\x7b" ++ FieldMatch.text field ++ "\x7d") ++ "]"
    else ""
  target ++ span ++ (if directive.target.isSome || directive.isDynamic then "=" else "") ++
    directive.level.name

def compareValues : Option FieldValue → Option FieldValue → Ordering
  | none, none => .eq
  | none, some _ => .lt
  | some _, none => .gt
  | some left, some right => left.compare right

def compareField (left right : FieldMatch) : Ordering :=
  (compare left.value.isSome right.value.isSome).then <|
    (compare left.name right.name).then (compareValues left.value right.value)

def compareFields : Option FieldMatch → Option FieldMatch → Ordering
  | none, none => .eq
  | none, some _ => .lt
  | some _, none => .gt
  | some left, some right => compareField left right

/--
Which of two directives is the more specific: by the length of the target, whether there is a
span, whether there is a field, and by the letters of all three if that leaves it open.
-/
def compare (left right : Directive) : Ordering :=
  let size (target : Option String) : Option Nat := target.map String.utf8ByteSize
  (Ord.compare (size left.target) (size right.target)).then <|
    (Ord.compare left.span.isSome right.span.isSome).then <|
    (Ord.compare left.field.isSome right.field.isSome).then <|
    (Ord.compare left.target right.target).then <|
    (Ord.compare left.span right.span).then <|
    compareFields left.field right.field

end Directive

end Debuggee.Log
