import Debuggee.Draft

/-!
Tables of a configuration document. A table is given once: under its own heading, in braces, or
by dotted names. What was given in one way is not added to in another, but a heading may name
tables on its way that are given later.
-/

namespace Debuggee.Toml

/-- How a table came to be, which decides what may be added to it. -/
inductive Origin where
  | heading
  /-- Named on the way to the table of a heading, and not given itself so far. -/
  | passed
  | dotted
  | braces
  deriving DecidableEq, Repr

inductive Item where
  | text (value : String)
  | integer (value : Int)
  | double (value : Binary64)
  | boolean (value : Bool)
  | moment (value : String)
  | list (items : List Item)
  | table (origin : Origin) (entries : List (String × Item))
  | tables (elements : List (List (String × Item)))

abbrev Entries := List (String × Item)

namespace Entries

def put (name : String) (item : Item) : Entries → Entries
  | [] => [(name, item)]
  | (other, kept) :: entries =>
    if other = name then (name, item) :: entries else (other, kept) :: put name item entries

def erase (name : String) (entries : Entries) : Entries :=
  entries.filter (·.1 ≠ name)

/--
Changes the table at the end of a path. Tables that are missing on the way come to be by
`created`; `passes` says which of those that are there let the path through.
-/
def within (created : Origin) (passes : Origin → Bool)
    (change : Origin → Entries → Option Entries) :
    List String → Origin → Entries → Option Entries
  | [], origin, entries => change origin entries
  | name :: path, _, entries =>
    match entries.lookup name with
    | none => do
      let inner ← within created passes change path created []
      some (entries.put name (.table created inner))
    | some (.table origin inner) =>
      if passes origin then do
        let inner ← within created passes change path origin inner
        some (entries.put name (.table origin inner))
      else none
    | some (.tables elements) => do
      let inner ← within created passes change path .heading (← elements.getLast?)
      some (entries.put name (.tables (elements.dropLast ++ [inner])))
    | some _ => none

end Entries

structure Assignment where
  path : List String
  name : String
  item : Item

/-- Adds what a line gives. Only tables made by dotted names are added to by dotted names. -/
def Entries.assign (entries : Entries) (line : Assignment) : Option Entries :=
  entries.within .dotted (fun origin => origin = .dotted || origin = .passed)
    (fun origin entries =>
      if (line.path.isEmpty || origin = .dotted) && (entries.lookup line.name).isNone then
        some (entries ++ [(line.name, line.item)])
      else none)
    line.path .heading

def Entries.assignAll (entries : Entries) (lines : List Assignment) : Option Entries :=
  lines.foldlM Entries.assign entries

structure Heading where
  path : List String
  name : String
  oneOfSeveral : Bool

def Entries.addSection (root : Entries) (heading : Heading) (lines : List Assignment) :
    Option Entries :=
  root.within .passed (fun origin => origin ≠ .braces)
    (fun _ entries =>
      match entries.lookup heading.name, heading.oneOfSeveral with
      | none, false => do
        let inner ← Entries.assignAll [] lines
        some (entries ++ [(heading.name, .table .heading inner)])
      | some (.table .passed before), false => do
        let inner ← Entries.assignAll before lines
        some (entries.erase heading.name ++ [(heading.name, .table .heading inner)])
      | none, true => do
        let inner ← Entries.assignAll [] lines
        some (entries ++ [(heading.name, .tables [inner])])
      | some (.tables elements), true => do
        let inner ← Entries.assignAll [] lines
        some (entries.put heading.name (.tables (elements ++ [inner])))
      | _, _ => none)
    heading.path .heading

inductive Statement where
  | assignment (line : Assignment)
  | heading (heading : Heading)

def sections (statements : List Statement) : List Assignment × List (Heading × List Assignment) :=
  statements.foldr
    (fun statement (lines, later) =>
      match statement with
      | .assignment line => (line :: lines, later)
      | .heading heading => ([], (heading, lines) :: later))
    ([], [])

def Entries.ofStatements (statements : List Statement) : Option Entries := do
  let (lines, later) := sections statements
  let root ← Entries.assignAll [] lines
  later.foldlM (fun root (heading, lines) => root.addSection heading lines) root

def momentField : String := "$__toml_private_datetime"

mutual

/-- Items of a document as data; a moment is a record of one member. -/
def Item.draft : Item → Draft
  | .text value => .text (.plain value)
  | .integer value => .number (.plain (.integer value))
  | .double value => .number (.plain (.double value))
  | .boolean value => .boolean value
  | .moment value => .object [(.plain momentField, .text (.plain value))] .closed
  | .list items => .list (draftItems items) .closed
  | .table _ entries => .object (draftEntries entries) .closed
  | .tables elements => .list (draftTables elements) .closed

def draftItems : List Item → List Draft
  | [] => []
  | item :: items => item.draft :: draftItems items

def draftEntries : List (String × Item) → List (Lexeme String × Draft)
  | [] => []
  | (name, item) :: entries => (.plain name, item.draft) :: draftEntries entries

def draftTables : List (List (String × Item)) → List Draft
  | [] => []
  | entries :: elements => .object (draftEntries entries) .closed :: draftTables elements

end

end Debuggee.Toml
