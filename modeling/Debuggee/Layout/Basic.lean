import Debuggee.Json.Value

/-!
Layouts: what a value of a type looks like as data. A layout is itself data, so one reader and one
writer serve every record, and a law about all layouts is proved once.
-/

namespace Debuggee

mutual

inductive Layout : Type → Type 1 where
  | integer : Layout Int64
  | word16 : Layout UInt16
  | word32 : Layout UInt32
  | word64 : Layout UInt64
  | boolean : Layout Bool
  | text : Layout String
  | path : Layout String
  | anything : Layout Json
  | list {α : Type} (item : Layout α) : Layout (List α)
  /--
  A named record. `guarded` records refuse members that no field claims, the others pass over
  them. The fields hold the components of the record, and `pack` puts them together.
  -/
  | record {ρ σ τ : Type} (name : String) (guarded : Bool) (fields : Fields σ τ)
      (pack : σ → ρ) (unpack : ρ → σ) (pack_unpack : ∀ value, pack (unpack value) = value) :
      Layout ρ

/-- A field says how its component is written and what its absence means. -/
inductive Field : Type → Type 1 where
  | required {α : Type} (name : String) (layout : Layout α) : Field α
  | defaulted {α : Type} (name : String) (layout : Layout α) (default : α) : Field α
  | optional {α : Type} (name : String) (layout : Layout α) : Field (Option α)
  /-- Written as null when there is none. Only a `trailing` one may be missing from a list. -/
  | nullable {α : Type} (name : String) (layout : Layout α) (trailing : Bool) : Field (Option α)

/-- The fields of a record, with the type of their components and that of their slots. -/
inductive Fields : Type → Type → Type 1 where
  | nil : Fields Unit Unit
  | cons {α σ τ : Type} (field : Field α) (others : Fields σ τ) :
      Fields (α × σ) (Option α × τ)

end

namespace Field

def name : Field α → String
  | .required name _ => name
  | .defaulted name _ _ => name
  | .optional name _ => name
  | .nullable name _ _ => name

def missing? : Field α → Option α
  | .required _ _ => none
  | .defaulted _ _ default => some default
  | .optional _ _ => some none
  | .nullable _ _ _ => some none

def beyondEnd? : Field α → Option α
  | .required _ _ => none
  | .defaulted _ _ default => some default
  | .optional _ _ => some none
  | .nullable _ _ trailing => if trailing then some none else none

end Field

namespace Fields

def names : Fields σ τ → List String
  | .nil => []
  | .cons field others => field.name :: others.names

def vacant : {σ τ : Type} → Fields σ τ → τ
  | _, _, .nil => ()
  | _, _, .cons _ others => (none, others.vacant)

end Fields

class HasLayout (α : Type) where
  layout : Layout α

end Debuggee
