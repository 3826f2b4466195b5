import Debuggee.Binary64

/-!
Data as far as its text could be read. A text with a syntax fault still has a draft: the tree of
all that stands before the fault, with the fault in the place where reading stops. Whoever reads
a draft from left to right meets the first fault of either kind, of the text or of the content,
in the order of the text.
-/

namespace Debuggee

inductive Fault where
  | endInList
  | endInObject
  | endInText
  | endInValue
  | expectedColon
  | expectedListSeparator
  | expectedObjectSeparator
  | expectedWord
  | expectedValue
  | invalidEscape
  | invalidNumber
  | numberOutOfRange
  | invalidUnicode
  | controlCharacter
  | keyNotText
  | loneSurrogate
  | trailingComma
  | trailingCharacters
  | unfinishedSurrogates
  | tooDeep
  deriving DecidableEq, Repr

def Fault.message : Fault → String
  | .endInList => "EOF while parsing a list"
  | .endInObject => "EOF while parsing an object"
  | .endInText => "EOF while parsing a string"
  | .endInValue => "EOF while parsing a value"
  | .expectedColon => "expected `:`"
  | .expectedListSeparator => "expected `,` or `]`"
  | .expectedObjectSeparator => "expected `,` or `\x7d`"
  | .expectedWord => "expected ident"
  | .expectedValue => "expected value"
  | .invalidEscape => "invalid escape"
  | .invalidNumber => "invalid number"
  | .numberOutOfRange => "number out of range"
  | .invalidUnicode => "invalid unicode code point"
  | .controlCharacter => "control character (\\u0000-\\u001F) found while parsing a string"
  | .keyNotText => "key must be a string"
  | .loneSurrogate => "lone leading surrogate in hex escape"
  | .trailingComma => "trailing comma"
  | .trailingCharacters => "trailing characters"
  | .unfinishedSurrogates => "unexpected end of hex escape"
  | .tooDeep => "recursion limit exceeded"

inductive Number where
  | integer (value : Int)
  | double (value : Binary64)
  deriving DecidableEq, Repr

/--
A text or number as it was met. What it means and whether it can be passed over are two
questions: a number out of range is no value, but nothing stops at it if nobody asks for it.
-/
structure Lexeme (α : Type) where
  meaning : Except Fault α
  passage : Except Fault Unit

def Lexeme.plain (value : α) : Lexeme α := ⟨.ok value, .ok ()⟩

/-- How a list or object ends: closed, or with one fault for readers and one for those passing. -/
inductive Closing where
  | closed
  | broken (reading passing : Fault)
  deriving DecidableEq, Repr

namespace Closing

def read : Closing → Except Fault Unit
  | .closed => .ok ()
  | .broken fault _ => .error fault

def pass : Closing → Except Fault Unit
  | .closed => .ok ()
  | .broken _ fault => .error fault

end Closing

inductive Draft where
  | null
  | boolean (value : Bool)
  | number (lexeme : Lexeme Number)
  | text (lexeme : Lexeme String)
  | list (items : List Draft) (closing : Closing)
  | object (members : List (Lexeme String × Draft)) (closing : Closing)
  | fault (fault : Fault)

namespace Draft

mutual

def pass : Draft → Except Fault Unit
  | .null => .ok ()
  | .boolean _ => .ok ()
  | .number lexeme => lexeme.passage
  | .text lexeme => lexeme.passage
  | .list items closing => do
    passItems items
    closing.pass
  | .object members closing => do
    passMembers members
    closing.pass
  | .fault cause => .error cause

def passItems : List Draft → Except Fault Unit
  | [] => .ok ()
  | item :: items => do
    item.pass
    passItems items

def passMembers : List (Lexeme String × Draft) → Except Fault Unit
  | [] => .ok ()
  | (key, value) :: members => do
    key.passage
    value.pass
    passMembers members

end

end Draft

end Debuggee
