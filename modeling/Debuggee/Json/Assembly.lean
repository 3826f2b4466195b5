import Debuggee.Json.Token

/-!
From the tokens of a text to its draft. The lists and objects that are open wait on a stack, each
with what has been read of it; a token either extends the innermost one, closes it or opens
another. Where a token does not fit, everything open is closed around the fault.
-/

namespace Debuggee.Json

/-- A list or object around the present place. Items and members come latest first. -/
inductive Enclosing where
  | list (items : List Draft)
  | member (members : List (Lexeme String × Draft)) (key : Lexeme String)

inductive Place where
  | value
  | listStart
  | nextItem (items : List Draft)
  | afterItem (items : List Draft)
  | objectStart
  | nextMember (members : List (Lexeme String × Draft))
  | afterMember (members : List (Lexeme String × Draft))
  | colon (members : List (Lexeme String × Draft)) (key : Lexeme String)

inductive Assembly where
  | reading (place : Place) (around : List Enclosing)
  | complete (draft : Draft)
  | overrun (draft : Draft)
  | halted (draft : Draft)

namespace Assembly

def start : Assembly := .reading .value []

def embed (fault : Fault) (draft : Draft) : List Enclosing → Draft
  | [] => draft
  | .list items :: around =>
    embed fault (.list (draft :: items).reverse (.broken fault fault)) around
  | .member members key :: around =>
    embed fault (.object ((key, draft) :: members).reverse (.broken fault fault)) around

def halt (fault : Fault) (draft : Draft) (around : List Enclosing) : Assembly :=
  .halted (embed fault draft around)

def deliver (draft : Draft) : List Enclosing → Assembly
  | [] => .complete draft
  | .list items :: around => .reading (.afterItem (draft :: items)) around
  | .member members key :: around => .reading (.afterMember ((key, draft) :: members)) around

/-- Goes on after a text or number, unless it cannot even be passed over. -/
def deliverLexeme (lexeme : Lexeme α) (draft : Draft) (around : List Enclosing) : Assembly :=
  match lexeme.passage with
  | .ok _ => deliver draft around
  | .error fault => halt fault draft around

def beginValue (token : Token) (around : List Enclosing) : Assembly :=
  match token with
  | .openList => .reading .listStart around
  | .openObject => .reading .objectStart around
  | .null => deliver .null around
  | .boolean value => deliver (.boolean value) around
  | .number lexeme => deliverLexeme lexeme (.number lexeme) around
  | .text lexeme => deliverLexeme lexeme (.text lexeme) around
  | .misspelt fault => halt fault (.fault fault) around
  | .closeList | .closeObject | .comma | .colon | .stray =>
    halt .expectedValue (.fault .expectedValue) around

def beginMember (members : List (Lexeme String × Draft)) (key : Lexeme String)
    (around : List Enclosing) : Assembly :=
  match key.passage with
  | .ok _ => .reading (.colon members key) around
  | .error fault => halt fault (.fault fault) (.member members key :: around)

def haltList (items : List Draft) (reading passing : Fault) (around : List Enclosing) : Assembly :=
  halt reading (.list items.reverse (.broken reading passing)) around

def haltObject (members : List (Lexeme String × Draft)) (reading passing : Fault)
    (around : List Enclosing) : Assembly :=
  halt reading (.object members.reverse (.broken reading passing)) around

def place (token : Token) (around : List Enclosing) : Place → Assembly
  | .value => beginValue token around
  | .listStart =>
    match token with
    | .closeList => deliver (.list [] .closed) around
    | _ => beginValue token (.list [] :: around)
  | .nextItem items =>
    match token with
    | .closeList => haltList items .trailingComma .expectedValue around
    | _ => beginValue token (.list items :: around)
  | .afterItem items =>
    match token with
    | .comma => .reading (.nextItem items) around
    | .closeList => deliver (.list items.reverse .closed) around
    | _ => haltList items .expectedListSeparator .expectedListSeparator around
  | .objectStart =>
    match token with
    | .text key => beginMember [] key around
    | .closeObject => deliver (.object [] .closed) around
    | _ => haltObject [] .keyNotText .keyNotText around
  | .nextMember members =>
    match token with
    | .text key => beginMember members key around
    | .closeObject => haltObject members .trailingComma .keyNotText around
    | _ => haltObject members .keyNotText .keyNotText around
  | .afterMember members =>
    match token with
    | .comma => .reading (.nextMember members) around
    | .closeObject => deliver (.object members.reverse .closed) around
    | _ => haltObject members .expectedObjectSeparator .expectedObjectSeparator around
  | .colon members key =>
    match token with
    | .colon => .reading .value (.member members key :: around)
    | _ => halt .expectedColon (.fault .expectedColon) (.member members key :: around)

def step (assembly : Assembly) (token : Token) : Assembly :=
  match assembly with
  | .reading here around => place token around here
  | .complete draft => .overrun draft
  | .overrun draft => .overrun draft
  | .halted draft => .halted draft

def finish : Assembly → Draft × Bool
  | .complete draft => (draft, false)
  | .overrun draft => (draft, true)
  | .halted draft => (draft, false)
  | .reading here around =>
    match here with
    | .value => (embed .endInValue (.fault .endInValue) around, false)
    | .listStart => (embed .endInList (.list [] (.broken .endInList .endInList)) around, false)
    | .nextItem items =>
      (embed .endInValue (.fault .endInValue) (.list items :: around), false)
    | .afterItem items =>
      (embed .endInList (.list items.reverse (.broken .endInList .endInList)) around, false)
    | .objectStart =>
      (embed .endInObject (.object [] (.broken .endInObject .endInObject)) around, false)
    | .nextMember members =>
      (embed .endInValue (.object members.reverse (.broken .endInValue .endInObject)) around, false)
    | .afterMember members =>
      (embed .endInObject (.object members.reverse (.broken .endInObject .endInObject)) around,
        false)
    | .colon members key =>
      (embed .endInObject (.fault .endInObject) (.member members key :: around), false)

def isSettled : Assembly → Bool
  | .overrun _ => true
  | .halted _ => true
  | _ => false

def run (assembly : Assembly) (octets : Bytes) : Assembly :=
  if assembly.isSettled then assembly
  else
    match _ : nextToken octets with
    | none => assembly
    | some (token, rest) => run (assembly.step token) rest
termination_by octets.length
decreasing_by exact nextToken_length (by assumption)

end Assembly

/-- The draft of a text, and whether something follows the value that it holds. -/
def draftOf (octets : Bytes) : Draft × Bool :=
  (Assembly.start.run octets).finish

end Debuggee.Json
