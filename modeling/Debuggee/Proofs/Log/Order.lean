import Debuggee.Log.Filter
import Mathlib

/-!
The order of directives. It is total up to directives about the same things, and the tables of a
filter stand in it: of the directives about the same things they hold the last one.
-/

namespace Debuggee.Log

open Std (TransCmp OrientedCmp ReflCmp)

namespace FieldValue

def number : FieldValue → Int
  | .boolean value => value.toNat
  | .double value => value.place
  | .notANumber => 0
  | .natural value => value
  | .integer value => value
  | .pattern _ => 0

def letters : FieldValue → String
  | .pattern text => text
  | _ => ""

theorem compare_eq_lex : FieldValue.compare =
    compareLex (compareOn rank) (compareLex (compareOn number) (compareOn letters)) := by
  have casts (left right : Nat) :
      Ord.compare left right = Ord.compare (left : Int) (right : Int) := by
    simp only [Ord.compare, compareOfLessAndEq, Int.ofNat_lt, Int.ofNat_inj]
  have truths (left right : Bool) :
      Ord.compare left right = Ord.compare (left.toNat : Int) (right.toNat : Int) := by
    cases left <;> cases right <;> rfl
  funext left right
  cases left <;> cases right <;>
    simp only [FieldValue.compare, compareLex, compareOn, rank, number, letters, casts, truths,
      ReflCmp.compare_self, Ordering.then_eq, Ordering.eq_then]
  all_goals rfl

instance : Ord FieldValue := ⟨FieldValue.compare⟩

instance : TransCmp FieldValue.compare := by
  rw [compare_eq_lex]
  infer_instance

instance : Std.TransOrd FieldValue := inferInstanceAs (TransCmp FieldValue.compare)

end FieldValue

namespace Directive

theorem compareValues_eq (left right : Option FieldValue) :
    compareValues left right = Ord.compare left right := by
  cases left <;> cases right <;> rfl

instance : Ord FieldMatch := ⟨compareField⟩

theorem compareField_eq_lex : compareField =
    compareLex (compareOn (·.value.isSome))
      (compareLex (compareOn (·.name)) (compareOn (·.value))) := by
  funext left right
  rw [compareField, compareValues_eq]
  rfl

instance : TransCmp compareField := by
  rw [compareField_eq_lex]
  infer_instance

instance : Std.TransOrd FieldMatch := inferInstanceAs (TransCmp compareField)

theorem compareFields_eq (left right : Option FieldMatch) :
    compareFields left right = Ord.compare left right := by
  cases left <;> cases right <;> rfl

theorem compare_eq_lex : Directive.compare =
    compareLex (compareOn fun directive => directive.target.map String.utf8ByteSize)
      (compareLex (compareOn (·.span.isSome)) (compareLex (compareOn (·.field.isSome))
        (compareLex (compareOn (·.target)) (compareLex (compareOn (·.span))
          (compareOn (·.field)))))) := by
  funext left right
  rw [Directive.compare, compareFields_eq]
  rfl

instance : TransCmp Directive.compare := by
  rw [compare_eq_lex]
  infer_instance

/-- Whether a directive is about the same things as another, whatever level it gives them. -/
def isAbout (about directive : Directive) : Bool :=
  directive.compare about = .eq

variable {directive about other : Directive}

@[simp] theorem isAbout_self : directive.isAbout directive = true := by
  simp [isAbout, ReflCmp.compare_self]

theorem compare_of_isAbout (same : about.isAbout directive = true) :
    directive.compare other = about.compare other :=
  TransCmp.congr_left (by simpa [isAbout] using same)

theorem compare_eq_of_isAbout (same : about.isAbout directive = true)
    (alsoSame : about.isAbout other = true) : directive.compare other = .eq := by
  rw [compare_of_isAbout same, ← compare_of_isAbout alsoSame]
  exact ReflCmp.compare_self

theorem isAbout_congr (same : about.isAbout directive = true) :
    other.isAbout directive = other.isAbout about := by
  rw [isAbout, isAbout, compare_of_isAbout same]

theorem named_of_isAbout (same : about.isAbout directive = true) :
    directive.target = about.target ∧ directive.span = about.span ∧
      directive.field.isSome = about.field.isSome ∧ directive.hasValue = about.hasValue := by
  simp only [isAbout, decide_eq_true_eq, compare_eq_lex, compareLex, compareOn,
    Ordering.then_eq_eq, Std.LawfulEqCmp.compare_eq_iff_eq] at same
  obtain ⟨-, -, asked, target, span, field⟩ := same
  refine ⟨target, span, asked, ?_⟩
  rw [hasValue, hasValue]
  cases mine : directive.field <;> cases other : about.field <;>
    simp only [mine, other] at asked field
  case none.none => rfl
  case none.some => cases asked
  case some.none => cases asked
  case some.some left right =>
    have alike : compareField left right = .eq := field
    simp only [compareField_eq_lex, compareLex, compareOn, Ordering.then_eq_eq,
      Std.LawfulEqCmp.compare_eq_iff_eq] at alike
    exact alike.1

theorem isAbout_target_iff {target : Option String} : isAbout { target } directive = true ↔
    directive.target = target ∧ directive.span = none ∧ directive.field = none := by
  constructor
  · intro same
    obtain ⟨named, span, field, -⟩ := named_of_isAbout same
    exact ⟨named, span, by simpa using field⟩
  · rintro ⟨rfl, span, field⟩
    simp [isAbout, Directive.compare, span, field, compareFields, ReflCmp.compare_self]

end Directive

/-- The most specific directive first, and no two about the same things. -/
def Ordered (items : List Directive) : Prop :=
  items.Pairwise fun left right => left.compare right = .gt

theorem Ordered.find?_isAbout {items : List Directive} {item : Directive} (ordered : Ordered items)
    (member : item ∈ items) : items.find? item.isAbout = some item := by
  obtain ⟨before, after, rfl⟩ := List.append_of_mem member
  refine List.find?_eq_some_iff_append.mpr ⟨Directive.isAbout_self, before, after, rfl, ?_⟩
  intro other early
  have above := (List.pairwise_append.mp ordered).2.2 other early item List.mem_cons_self
  simp [Directive.isAbout, above]

section Insert

variable {directive about : Directive} {items : List Directive}

theorem mem_of_mem_insertDirective {item : Directive}
    (member : item ∈ insertDirective directive items) : item = directive ∨ item ∈ items := by
  fun_induction insertDirective directive items <;> grind

theorem ordered_insertDirective (ordered : Ordered items) :
    Ordered (insertDirective directive items) := by
  induction items with
  | nil => exact List.pairwise_singleton _ _
  | cons other items ih =>
      obtain ⟨first, rest⟩ := List.pairwise_cons.mp ordered
      rw [insertDirective]
      cases place : directive.compare other with
      | gt =>
          refine List.pairwise_cons.mpr ⟨fun item member => ?_, ordered⟩
          rcases List.mem_cons.mp member with rfl | later
          · exact place
          · exact TransCmp.gt_trans place (first item later)
      | eq =>
          refine List.pairwise_cons.mpr ⟨fun item later => ?_, rest⟩
          rw [TransCmp.congr_left place]
          exact first item later
      | lt =>
          refine List.pairwise_cons.mpr ⟨fun item member => ?_, ih rest⟩
          rcases mem_of_mem_insertDirective member with rfl | later
          · exact OrientedCmp.gt_of_lt place
          · exact first item later

/-- What is inserted takes the place of what is about the same things, and of nothing else. -/
theorem find?_insertDirective :
    (insertDirective directive items).find? about.isAbout =
      if about.isAbout directive then some directive else items.find? about.isAbout := by
  induction items with
  | nil => simp [insertDirective, List.find?_singleton]
  | cons other items ih =>
      rw [insertDirective]
      cases place : directive.compare other with
      | gt => by_cases here : about.isAbout directive <;> simp [here]
      | eq =>
          have alike : about.isAbout directive = about.isAbout other :=
            Directive.isAbout_congr (by simpa [Directive.isAbout] using place)
          by_cases here : about.isAbout other <;> simp [alike, here]
      | lt =>
          by_cases here : about.isAbout other
          · have apart : about.isAbout directive = false := by
              rw [Directive.isAbout, decide_eq_true_eq] at here
              rw [Directive.isAbout, ← TransCmp.congr_right here, place]
              rfl
            simp [here, apart]
          · simp [here, ih]

end Insert

end Debuggee.Log
