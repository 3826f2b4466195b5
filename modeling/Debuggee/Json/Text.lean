import Debuggee.Json.Assembly
import Debuggee.Layout.Read
import Debuggee.Layout.Write

/-!
Data and its text. Writing is compact, in the order of the members. Values can be read straight
from a text or from data read before; both go through the layout of their type.
-/

namespace Debuggee

namespace Json

open Bytes (ascii)

mutual

def render : Json → Bytes
  | .null => Bytes.ofString "null"
  | .boolean true => Bytes.ofString "true"
  | .boolean false => Bytes.ofString "false"
  | .integer value => Bytes.ofInt value
  | .double value => Bytes.ofString (value.render Binary64.compact)
  | .text value => renderText value
  | .list items => ascii '[' :: (renderItems items ++ [ascii ']'])
  | .object members => ascii '\x7b' :: (renderMembers members ++ [ascii '\x7d'])

def renderItems : List Json → Bytes
  | [] => []
  | [item] => item.render
  | item :: items => item.render ++ ascii ',' :: renderItems items

def renderMembers : List (String × Json) → Bytes
  | [] => []
  | [(key, value)] => renderText key ++ ascii ':' :: value.render
  | (key, value) :: members =>
    renderText key ++ ascii ':' :: (value.render ++ ascii ',' :: renderMembers members)

end

inductive PairError where
  | keyNotText
  deriving DecidableEq, Repr

def PairError.message : PairError → String
  | .keyNotText => Fault.keyNotText.message

def ofPairs : List (Json × Json) → Except PairError Json
  | pairs => do
    let members ← pairs.mapM fun pair =>
      match pair.1 with
      | .text key => .ok (key, pair.2)
      | _ => .error PairError.keyNotText
    .ok (.object members)

end Json

def Layout.readText (layout : Layout α) (octets : Bytes) : Except LayoutError α := do
  let (draft, overrun) := Json.draftOf octets
  let value ← layout.read .fullText draft
  if overrun then .error (.fault .trailingCharacters) else .ok value

def fromText [HasLayout α] (octets : Bytes) : Except LayoutError α :=
  (HasLayout.layout : Layout α).readText octets

def Json.parse (octets : Bytes) : Except LayoutError Json :=
  Layout.anything.readText octets

def toText [HasLayout α] (value : α) : Bytes :=
  (toJson value).render

end Debuggee
