import Debuggee.Proofs.Layout.Written

/-!
Values are read back from their text, and from the data that the text holds. The order in which the
members of an object stand does not matter: any text of the same data is read as the same value.
-/

namespace Debuggee

variable {α : Type}

theorem Layout.readText_of_shows (layout : Layout α) (tidy : layout.isDistinct = true) {value : α}
    {data : Json} {text : Bytes} (readable : Json.draftOf text = (data.draft, false))
    (distinct : data.Distinct) (shallow : data.depth ≤ 127) (shows : layout.Shows value data) :
    layout.readText text = .ok value := by
  have read : layout.read .fullText data.draft = .ok value :=
    layout.read_of_shows tidy distinct (decide_eq_true shallow) shows
  rw [readText, readable]
  simp only [read, bind, Except.bind]
  rfl

/--
Layouts of records as they travel: each field has a name of its own, no data in them is free, and
they are not nested deeper than a text may be.
-/
structure Layout.IsRegular (layout : Layout α) : Prop where
  tidy : layout.isDistinct = true
  closed : layout.isClosed = true
  shallow : layout.levels ≤ 127

namespace Layout.IsRegular

variable {layout : Layout α} {data : Json} {text : Bytes}

theorem good_write {Good : Json → Prop} (regular : layout.IsRegular) (hereditary : Hereditary Good)
    (value : α) : Good (layout.write value) :=
  layout.good_write hereditary regular.tidy (layout.bears_of_isClosed regular.closed value)

theorem depth_write (regular : layout.IsRegular) (value : α) : (layout.write value).depth ≤ 127 := by
  have bounded : (layout.write value).depth ≤ layout.levels + 0 :=
    layout.depth_write (layout.bears_of_isClosed regular.closed value)
  exact bounded.trans regular.shallow

theorem shows_of_sorted (regular : layout.IsRegular) {value : α} (distinct : data.Distinct)
    (same : data.sorted = (layout.write value).sorted) : layout.Shows value data := by
  have written : layout.Shows value (layout.write value) :=
    layout.shows_write regular.tidy (layout.bears_of_isClosed regular.closed value)
  rw [← layout.shows_sorted_iff distinct, same]
  exact (layout.shows_sorted_iff (regular.good_write hereditary_distinct value)).mpr written

theorem depth_of_sorted (regular : layout.IsRegular) {value : α} (distinct : data.Distinct)
    (same : data.sorted = (layout.write value).sorted) : data.depth ≤ 127 := by
  rw [← distinct.depth_sorted, same,
    (regular.good_write hereditary_distinct value).depth_sorted]
  exact regular.depth_write value

theorem read_of_sorted (regular : layout.IsRegular) {value : α} (distinct : data.Distinct)
    (same : data.sorted = (layout.write value).sorted) :
    layout.read .value data.draft = .ok value :=
  layout.read_of_shows regular.tidy distinct rfl (regular.shows_of_sorted distinct same)

theorem readText_of_sorted (regular : layout.IsRegular) {value : α}
    (readable : Json.draftOf text = (data.draft, false)) (distinct : data.Distinct)
    (same : data.sorted = (layout.write value).sorted) : layout.readText text = .ok value :=
  layout.readText_of_shows regular.tidy readable distinct (regular.depth_of_sorted distinct same)
    (regular.shows_of_sorted distinct same)

theorem readText_render_write (regular : layout.IsRegular) (value : α) :
    layout.readText (layout.write value).render = .ok value :=
  regular.readText_of_sorted (Json.draftOf_render (regular.good_write hereditary_exact value))
    (regular.good_write hereditary_distinct value) rfl

theorem parse_render_write (regular : layout.IsRegular) (value : α) :
    Json.parse (layout.write value).render = .ok (layout.write value).sorted :=
  Json.parse_render (regular.good_write hereditary_exact value) (regular.depth_write value)

end Layout.IsRegular

end Debuggee
