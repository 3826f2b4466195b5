import Debuggee.Draft
import Debuggee.Text.Quoted

/-! Why data does not have the layout that was asked for, and how that is worded. -/

namespace Debuggee

inductive Found where
  | null
  | boolean (value : Bool)
  | integer (value : Int)
  | double (value : Binary64)
  | text (value : String)
  | list
  | object
  deriving DecidableEq, Repr

inductive Wanted where
  | integer
  | word16
  | word32
  | word64
  | boolean
  | text
  | path
  | list
  | record (name : String)
  deriving DecidableEq, Repr

inductive LayoutError where
  | fault (cause : Fault)
  | wrongKind (found : Found) (wanted : Wanted)
  | outOfRange (value : Int) (wanted : Wanted)
  | missingField (name : String)
  | duplicateField (name : String)
  | unknownField (name : String) (known : List String)
  | listTooShort (place : Nat) (record : String) (fields : Nat)
  | listTooLong (length : Nat)
  deriving DecidableEq, Repr

/-- Doubles in data keep their point; exponents above fifteen and below minus five are split off. -/
def Binary64.compact : Binary64.Style where
  lowest := -5
  highest := 15
  pointed := true
  upward := false

def Binary64.plain : Binary64.Style where
  lowest := -400
  highest := 400
  pointed := true
  upward := true

def Found.describe (style : Binary64.Style) : Found → String
  | .null => "null"
  | .boolean value => "boolean `" ++ (if value then "true" else "false") ++ "`"
  | .integer value => "integer `" ++ toString value ++ "`"
  | .double value => "floating point `" ++ value.render style ++ "`"
  | .text value => "string " ++ Text.quoted value
  | .list => "sequence"
  | .object => "map"

def Wanted.describe : Wanted → String
  | .integer => "i64"
  | .word16 => "u16"
  | .word32 => "u32"
  | .word64 => "u64"
  | .boolean => "a boolean"
  | .text => "a string"
  | .path => "path string"
  | .list => "a sequence"
  | .record name => "struct " ++ name

def describeKnown : List String → String
  | [] => "there are no fields"
  | [only] => "expected `" ++ only ++ "`"
  | [first, second] => "expected `" ++ first ++ "` or `" ++ second ++ "`"
  | names => "expected one of " ++ ", ".intercalate (names.map fun name => "`" ++ name ++ "`")

def LayoutError.describe (style : Binary64.Style) : LayoutError → String
  | .fault cause => cause.message
  | .wrongKind found wanted =>
    "invalid type: " ++ found.describe style ++ ", expected " ++ wanted.describe
  | .outOfRange value wanted =>
    "invalid value: integer `" ++ toString value ++ "`, expected " ++ wanted.describe
  | .missingField name => "missing field `" ++ name ++ "`"
  | .duplicateField name => "duplicate field `" ++ name ++ "`"
  | .unknownField name known => "unknown field `" ++ name ++ "`, " ++ describeKnown known
  | .listTooShort place record fields =>
    "invalid length " ++ toString place ++ ", expected struct " ++ record ++ " with " ++
      toString fields ++ (if fields = 1 then " element" else " elements")
  | .listTooLong length =>
    "invalid length " ++ toString length ++ ", expected fewer elements in array"

def LayoutError.message (error : LayoutError) : String :=
  error.describe Binary64.compact

end Debuggee
