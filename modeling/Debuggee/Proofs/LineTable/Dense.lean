import Debuggee.Proofs.LineTable.Range

/-!
Dense line tables, with a cell for every line. They say plainly what a sparse table stands for: both
resolve every line alike.
-/

namespace Debuggee

inductive Cell where
  | invalid
  | start
  | continuation
  deriving DecidableEq

def Cell.ofKind : LineKind → Cell
  | .invalid => .invalid
  | .start => .start

def Cell.ofEntry : Option LineKind → Cell
  | some kind => .ofKind kind
  | none => .continuation

theorem Cell.ofKind_ne_continuation (kind : LineKind) : Cell.ofKind kind ≠ .continuation := by
  cases kind <;> simp [Cell.ofKind]

theorem Cell.ofEntry_eq_continuation_iff {entry : Option LineKind} :
    Cell.ofEntry entry = .continuation ↔ entry = none := by
  cases entry with
  | none => simp [Cell.ofEntry]
  | some kind => simp [Cell.ofEntry, Cell.ofKind_ne_continuation]

structure DenseTable where
  cells : List Cell := [.invalid]

namespace DenseTable

def register (table : DenseTable) (line : Int64) (kind : LineKind) : DenseTable :=
  if line.toInt ≤ 0 then table
  else
    let index := line.toInt.toNat
    let added := List.replicate (index + 1 - table.cells.length) Cell.continuation
    { cells := (table.cells ++ added).set index (.ofKind kind) }

def walkDown (cells : List Cell) : Nat → Nat
  | 0 => 0
  | index + 1 =>
    if cells[index + 1]? = some .continuation then walkDown cells index else index + 1

def walkUp (cells : List Cell) (index : Nat) : Nat :=
  index + 1 + (cells.drop (index + 1)).findIdx (· ≠ .continuation)

def resolve (table : DenseTable) (line : Int64) : Resolution :=
  let index := min (max line.toInt 0) (table.cells.length - 1)
  let start := walkDown table.cells index.toNat
  { verified := table.cells[start]? = some .start
    start := start
    stop := walkUp table.cells start }

def ofLines (lines : List (Int64 × LineKind)) : DenseTable :=
  lines.foldl (fun table told => table.register told.1 told.2) {}

theorem walkDown_le (cells : List Cell) (index : Nat) : walkDown cells index ≤ index := by
  induction index with
  | zero => simp [walkDown]
  | succ index ih =>
      rw [walkDown]
      split
      · omega
      · exact Nat.le_refl _

theorem walkDown_between (cells : List Cell) {index line : Nat}
    (above : walkDown cells index < line) (most : line ≤ index) :
    cells[line]? = some .continuation := by
  induction index with
  | zero => omega
  | succ index ih =>
      rw [walkDown] at above
      split at above
      · rename_i passed
        by_cases last : line = index + 1
        · simpa [last] using passed
        · exact ih above (by omega)
      · omega

theorem walkDown_stops (cells : List Cell) (index : Nat)
    (passed : cells[walkDown cells index]? = some .continuation) : walkDown cells index = 0 := by
  induction index with
  | zero => rfl
  | succ index ih =>
      rw [walkDown] at passed ⊢
      split
      · rename_i here
        rw [if_pos here] at passed
        exact ih passed
      · rename_i here
        rw [if_neg here] at passed
        contradiction

theorem walkUp_le (cells : List Cell) {index : Nat} (inside : index < cells.length) :
    walkUp cells index ≤ cells.length := by
  have bound : (cells.drop (index + 1)).findIdx (· ≠ .continuation) ≤
      (cells.drop (index + 1)).length := List.findIdx_le_length
  rw [List.length_drop] at bound
  simp only [walkUp]
  omega

theorem walkUp_between (cells : List Cell) {index line : Nat} (above : index < line)
    (below : line < walkUp cells index) : cells[line]? = some .continuation := by
  simp only [walkUp] at below
  have offset : line - (index + 1) < (cells.drop (index + 1)).findIdx (· ≠ .continuation) := by
    omega
  have passed := List.not_of_lt_findIdx offset
  have place : index + 1 + (line - (index + 1)) = line := by omega
  simp only [List.getElem_drop, place, decide_not, Bool.not_eq_eq_eq_not, Bool.not_false,
    decide_eq_true_eq] at passed
  rw [← passed]
  exact List.getElem?_eq_getElem _

theorem walkUp_stops (cells : List Cell) (index : Nat)
    (inside : walkUp cells index < cells.length) :
    cells[walkUp cells index]? ≠ some .continuation := by
  simp only [walkUp] at inside ⊢
  have bound : (cells.drop (index + 1)).findIdx (· ≠ .continuation) <
      (cells.drop (index + 1)).length := by
    rw [List.length_drop]
    omega
  have found := List.findIdx_getElem (w := bound)
  simp only [List.getElem_drop, decide_eq_true_eq] at found
  rw [List.getElem?_eq_getElem inside]
  exact fun same => found (Option.some.inj same)

/-- A dense table and a sparse one that stand for the same lines. -/
structure Represents (dense : DenseTable) (table : LineTable) : Prop where
  length : dense.cells.length = table.length
  cell : ∀ index < table.length,
    dense.cells[index]? = some (.ofEntry (table.entries.get? index))
  covered : ∀ line kind, table.entries.get? line = some kind → line < table.length

theorem represents_default : Represents {} {} := by
  constructor
  · rfl
  · intro index inside
    have first : index = 0 := by simpa using inside
    subst first
    rfl
  · intro line kind told
    have covered := LineTable.valid_default.covered line kind told
    exact covered.resolve_right fun last => absurd last.2 (by decide)

theorem register_of_zero (table : DenseTable) {line : Int64} (kind : LineKind)
    (zero : LineTable.lineIndex line = 0) : table.register line kind = table := by
  simp only [LineTable.lineIndex] at zero
  rw [register, if_pos (by omega)]

theorem register_of_positive (table : DenseTable) {line : Int64} (kind : LineKind)
    (positive : LineTable.lineIndex line ≠ 0) :
    (table.register line kind).cells =
      (table.cells ++ List.replicate (LineTable.lineIndex line + 1 - table.cells.length)
        Cell.continuation).set (LineTable.lineIndex line) (.ofKind kind) := by
  simp only [LineTable.lineIndex] at positive
  rw [register, if_neg (by omega)]
  rfl

theorem length_register (table : DenseTable) {line : Int64} (kind : LineKind)
    (positive : LineTable.lineIndex line ≠ 0) :
    (table.register line kind).cells.length =
      max table.cells.length (LineTable.lineIndex line + 1) := by
  rw [register_of_positive table kind positive, List.length_set, List.length_append,
    List.length_replicate]
  omega

theorem cell_register (table : DenseTable) {line : Int64} (kind : LineKind)
    (positive : LineTable.lineIndex line ≠ 0) {index : Nat}
    (inside : index < (table.register line kind).cells.length) :
    (table.register line kind).cells[index]? =
      some (if index = LineTable.lineIndex line then .ofKind kind
        else table.cells[index]?.getD .continuation) := by
  rw [length_register table kind positive] at inside
  rw [register_of_positive table kind positive]
  by_cases here : index = LineTable.lineIndex line
  · rw [if_pos here, here, List.getElem?_set_self]
    rw [List.length_append, List.length_replicate]
    omega
  · rw [if_neg here, List.getElem?_set_ne (Ne.symm here)]
    by_cases old : index < table.cells.length
    · rw [List.getElem?_append_left old, List.getElem?_eq_getElem old, Option.getD_some]
    · rw [List.getElem?_append_right (by omega), List.getElem?_replicate_of_lt (by omega),
        List.getElem?_eq_none (by omega), Option.getD_none]

theorem Represents.register {dense : DenseTable} {table : LineTable}
    (represents : dense.Represents table) {line : Int64} (kind : LineKind)
    (below : line.toInt < 2 ^ 63 - 1) :
    (dense.register line kind).Represents (table.register line kind) := by
  by_cases zero : LineTable.lineIndex line = 0
  · rw [register_of_zero dense kind zero, LineTable.register_of_zero table kind zero]
    exact represents
  · have bounded : LineTable.lineIndex line < LineTable.maxLine := by
      simp only [LineTable.lineIndex, LineTable.maxLine_eq]
      omega
    have sparseLength : (table.register line kind).length =
        max table.length (LineTable.lineIndex line + 1) := by
      rw [LineTable.length_register table kind zero]
      split <;> omega
    have sameLength : (dense.register line kind).cells.length =
        (table.register line kind).length := by
      rw [length_register dense kind zero, represents.length, sparseLength]
    constructor
    · exact sameLength
    · intro index inside
      rw [cell_register dense kind zero (sameLength ▸ inside),
        LineTable.get?_register table kind zero]
      by_cases here : index = LineTable.lineIndex line
      · rw [if_pos here, if_pos here, Cell.ofEntry]
      · rw [if_neg here, if_neg here]
        by_cases old : index < table.length
        · rw [represents.cell index old, Option.getD_some]
        · rw [List.getElem?_eq_none (by rw [represents.length]; omega), Option.getD_none]
          cases told : table.entries.get? index with
          | none => rfl
          | some other => exact absurd (represents.covered index other told) old
    · intro other found told
      rw [LineTable.get?_register table kind zero] at told
      rw [sparseLength]
      split at told
      · omega
      · have old := represents.covered other found told
        omega

theorem represents_ofLines (lines : List (Int64 × LineKind))
    (below : ∀ told ∈ lines, told.1.toInt < 2 ^ 63 - 1) :
    (ofLines lines).Represents (LineTable.ofLines lines) := by
  induction lines using List.reverseRecOn with
  | nil => exact represents_default
  | append_singleton lines told ih =>
      have step : ofLines (lines ++ [told]) = (ofLines lines).register told.1 told.2 := by
        simp [ofLines, List.foldl_append]
      rw [step, LineTable.ofLines_concat]
      have earlier := ih fun other member => below other (List.mem_append_left _ member)
      exact earlier.register told.2 (below told (by simp))

section Walk

variable {dense : DenseTable} {table : LineTable} {index : Nat}

theorem Represents.continuation_iff (represents : dense.Represents table)
    (inside : index < table.length) :
    dense.cells[index]? = some .continuation ↔ table.entries.get? index = none := by
  rw [represents.cell index inside, Option.some.injEq, Cell.ofEntry_eq_continuation_iff]

theorem Represents.told_walkDown (represents : dense.Represents table) (valid : table.Valid)
    (inside : index < table.length) :
    ∃ kind, table.entries.get? (walkDown dense.cells index) = some kind := by
  have least := walkDown_le dense.cells index
  cases entry : table.entries.get? (walkDown dense.cells index) with
  | some kind => exact ⟨kind, rfl⟩
  | none =>
      have passed := (represents.continuation_iff (by omega)).mpr entry
      rw [walkDown_stops dense.cells index passed, valid.zero] at entry
      contradiction

theorem Represents.lt_walkUp_walkDown (represents : dense.Represents table)
    (inside : index < table.length) : index < walkUp dense.cells (walkDown dense.cells index) := by
  by_cases early : walkUp dense.cells (walkDown dense.cells index) ≤ index
  · have above : walkDown dense.cells index <
        walkUp dense.cells (walkDown dense.cells index) := by
      simp only [walkUp]
      omega
    have passed := walkDown_between dense.cells above early
    have stopped := walkUp_stops dense.cells (walkDown dense.cells index)
      (by rw [represents.length]; omega)
    exact absurd passed stopped
  · omega

theorem Represents.walk_range (represents : dense.Represents table)
    (inside : index < table.length) {kind : LineKind}
    (told : table.entries.get? (walkDown dense.cells index) = some kind) :
    table.Range (walkDown dense.cells index) (walkUp dense.cells (walkDown dense.cells index))
      kind := by
  have least := walkDown_le dense.cells index
  have beyond := represents.lt_walkUp_walkDown inside
  have most : walkUp dense.cells (walkDown dense.cells index) ≤ table.length := by
    rw [← represents.length]
    exact walkUp_le dense.cells (by rw [represents.length]; omega)
  constructor
  · exact told
  · omega
  · exact most
  · intro other above below
    exact (represents.continuation_iff (by omega)).mp (walkUp_between dense.cells above below)
  · by_cases last : walkUp dense.cells (walkDown dense.cells index) = table.length
    · exact Or.inl last
    · right
      have stopped := walkUp_stops dense.cells (walkDown dense.cells index)
        (by rw [represents.length]; omega)
      exact Option.ne_none_iff_exists'.mp (mt (represents.continuation_iff (by omega)).mpr stopped)

theorem Represents.resolve_eq (represents : dense.Represents table) (valid : table.Valid)
    (line : Int64) :
    dense.resolve line =
      { verified := dense.cells[walkDown dense.cells (table.nearest line)]? = some .start
        start := walkDown dense.cells (table.nearest line)
        stop := walkUp dense.cells (walkDown dense.cells (table.nearest line)) } := by
  have sameIndex : (min (max line.toInt 0) (dense.cells.length - 1)).toNat =
      table.nearest line := by
    have nonempty := valid.nonempty
    simp only [LineTable.nearest, LineTable.lineIndex, represents.length]
    omega
  simp only [DenseTable.resolve, sameIndex]

end Walk

theorem Represents.resolve_range {dense : DenseTable} {table : LineTable}
    (represents : dense.Represents table) (valid : table.Valid) (line : Int64) :
    ∃ kind, table.Range (dense.resolve line).start (dense.resolve line).stop kind ∧
      (dense.resolve line).verified = decide (kind = .start) ∧
      (dense.resolve line).start ≤ table.nearest line ∧
      table.nearest line < (dense.resolve line).stop := by
  have inside := valid.nearest_lt line
  have least := walkDown_le dense.cells (table.nearest line)
  obtain ⟨kind, told⟩ := represents.told_walkDown valid inside
  have verified : decide (dense.cells[walkDown dense.cells (table.nearest line)]? =
      some .start) = decide (kind = .start) := by
    rw [represents.cell _ (by omega), told]
    cases kind <;> rfl
  rw [represents.resolve_eq valid]
  exact ⟨kind, represents.walk_range inside told, verified, least,
    represents.lt_walkUp_walkDown inside⟩

end DenseTable

/-- A table resolves every line as the dense table with the same lines does. -/
theorem LineTable.resolve_ofLines_eq_dense (lines : List (Int64 × LineKind))
    (below : ∀ told ∈ lines, told.1.toInt < 2 ^ 63 - 1) (line : Int64) :
    (LineTable.ofLines lines).resolve line = (DenseTable.ofLines lines).resolve line := by
  have valid := valid_ofLines lines
  have represents := DenseTable.represents_ofLines lines below
  obtain ⟨kind, range, verified, least, beyond⟩ := valid.resolve_range line
  obtain ⟨denseKind, denseRange, denseVerified, denseLeast, denseBeyond⟩ :=
    represents.resolve_range valid line
  obtain ⟨sameStart, sameStop, sameKind⟩ :=
    range.unique denseRange least beyond denseLeast denseBeyond
  have sameVerified : ((LineTable.ofLines lines).resolve line).verified =
      ((DenseTable.ofLines lines).resolve line).verified := by
    rw [verified, denseVerified, sameKind]
  exact Resolution.ext sameVerified sameStart sameStop

theorem LineTable.resolve_ofLines_eq_dense_past_end :
    (∀ told ∈ ([(3, .start), (5, .invalid), (4, .start), (-2, .start), (5, .start)] :
      List (Int64 × LineKind)), told.1.toInt < 2 ^ 63 - 1) ∧
    (LineTable.ofLines [(3, .start), (5, .invalid), (4, .start), (-2, .start), (5, .start)]).resolve
      100 = (DenseTable.ofLines
        [(3, .start), (5, .invalid), (4, .start), (-2, .start), (5, .start)]).resolve 100 ∧
    (DenseTable.ofLines
      [(3, .start), (5, .invalid), (4, .start), (-2, .start), (5, .start)]).resolve 100 =
        ⟨true, 5, 6⟩ :=
  ⟨by decide, resolve_ofLines_eq_dense _ (by decide) 100, by decide⟩

end Debuggee
