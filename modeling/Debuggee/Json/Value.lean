import Debuggee.Binary64

/-!
Structured data: null, truth values, numbers, texts, lists and objects. Objects keep their members
in a list; in sorted data the keys ascend strictly at every depth.
-/

namespace Debuggee

inductive Json where
  | null
  | boolean (value : Bool)
  | integer (value : Int)
  | double (value : Binary64)
  | text (value : String)
  | list (items : List Json)
  | object (members : List (String × Json))
  deriving Inhabited

namespace Json

def setMember (key : String) (value : Json) : List (String × Json) → List (String × Json)
  | [] => [(key, value)]
  | (other, kept) :: members =>
    if key < other then (key, value) :: (other, kept) :: members
    else if key = other then (key, value) :: members
    else (other, kept) :: setMember key value members

mutual

/-- The same data with the keys of every object in ascending order, the last of equals kept. -/
def sorted : Json → Json
  | .list items => .list (sortedItems items)
  | .object members => .object (sortedMembers members [])
  | .null => .null
  | .boolean value => .boolean value
  | .integer value => .integer value
  | .double value => .double value
  | .text value => .text value

def sortedItems : List Json → List Json
  | [] => []
  | item :: items => item.sorted :: sortedItems items

def sortedMembers : List (String × Json) → List (String × Json) → List (String × Json)
  | [], done => done
  | (key, value) :: members, done => sortedMembers members (setMember key value.sorted done)

end

end Json

end Debuggee
