import Debuggee.Proofs.LineTable.Range
import Debuggee.Registry

/-!
Line tables in signed words of 64 bits, with sums that are checked. No sum ever fails, and the words
are the numbers of the table that is not held in words.
-/

namespace Debuggee

namespace Word

def ofInt? (number : Int) : Option Int64 :=
  if Int64.minValue.toInt ≤ number ∧ number ≤ Int64.maxValue.toInt then some (Int64.ofInt number)
  else none

def add? (first second : Int64) : Option Int64 :=
  ofInt? (first.toInt + second.toInt)

def sub? (first second : Int64) : Option Int64 :=
  ofInt? (first.toInt - second.toInt)

/-- The word after a word. The greatest one comes after itself. -/
def next (word : Int64) : Int64 :=
  (add? word 1).getD Int64.maxValue

def clamp? (word least most : Int64) : Option Int64 :=
  if least ≤ most then some (if word < least then least else if most < word then most else word)
  else none

theorem ofInt?_of_bounds (number : Int) (least : -2 ^ 63 ≤ number) (most : number < 2 ^ 63) :
    ∃ word, ofInt? number = some word ∧ word.toInt = number := by
  have bounds : Int64.minValue.toInt ≤ number ∧ number ≤ Int64.maxValue.toInt := by
    rw [Int64.toInt_minValue, Int64.toInt_maxValue]
    omega
  exact ⟨Int64.ofInt number, if_pos bounds, Int64.toInt_ofInt_of_le least most⟩

theorem add?_one {word : Int64} (most : word.toInt < 2 ^ 63 - 1) :
    ∃ after, add? word 1 = some after ∧ after.toInt = word.toInt + 1 := by
  have least := Int64.le_toInt word
  exact ofInt?_of_bounds (word.toInt + 1) (by omega) (by omega)

theorem sub?_one {word : Int64} (least : -2 ^ 63 < word.toInt) :
    ∃ before, sub? word 1 = some before ∧ before.toInt = word.toInt - 1 := by
  have most := Int64.toInt_lt word
  exact ofInt?_of_bounds (word.toInt - 1) (by omega) (by omega)

theorem next_toInt (word : Int64) : (next word).toInt = min (word.toInt + 1) (2 ^ 63 - 1) := by
  have most := Int64.toInt_lt word
  by_cases last : word.toInt = 2 ^ 63 - 1
  · have same : word = Int64.maxValue :=
      Int64.toInt_inj.mp (last.trans Int64.toInt_maxValue.symm)
    subst same
    decide
  · obtain ⟨after, added, value⟩ := add?_one (by omega : word.toInt < 2 ^ 63 - 1)
    rw [next, added, Option.getD_some, value]
    omega

theorem clamp?_of_le (word : Int64) {least most : Int64} (ordered : least.toInt ≤ most.toInt) :
    ∃ clamped, clamp? word least most = some clamped ∧
      clamped.toInt = max least.toInt (min word.toInt most.toInt) := by
  refine ⟨_, if_pos (Int64.le_iff_toInt_le.mpr ordered), ?_⟩
  split
  · rename_i low
    rw [Int64.lt_iff_toInt_lt] at low
    omega
  · rename_i notLow
    rw [Int64.lt_iff_toInt_lt] at notLow
    split
    · rename_i high
      rw [Int64.lt_iff_toInt_lt] at high
      omega
    · rename_i notHigh
      rw [Int64.lt_iff_toInt_lt] at notHigh
      omega

end Word

structure WordRange where
  verified : Bool
  start : Int64
  stop : Int64

def WordRange.endLine? (range : WordRange) : Option Int64 :=
  Word.sub? range.stop 1

structure WordRange.Denotes (range : WordRange) (resolution : Resolution) : Prop where
  verified : range.verified = resolution.verified
  start : range.start.toInt = resolution.start
  stop : range.stop.toInt = resolution.stop

structure WordTable where
  entries : NumberMap LineKind := NumberMap.empty.set 0 .invalid
  length : Int64 := 1

namespace WordTable

def register (table : WordTable) (line : Int64) (kind : LineKind) : WordTable :=
  if line < 0 then table
  else
    { entries :=
        if 0 < line then table.entries.set (LineTable.lineIndex line) kind else table.entries
      length := if table.length ≤ line then Word.next line else table.length }

/-- Resolves a line as `LineTable.resolve` does; none as soon as a sum is no word. -/
def resolve? (table : WordTable) (line : Int64) : Option WordRange := do
  let last ← Word.sub? table.length 1
  let clamped ← Word.clamp? line 0 last
  let (start, kind) :=
    ((table.entries.atOrBelow? (LineTable.lineIndex clamped)).map fun entry =>
      (Int64.ofNat entry.1, entry.2)).getD (0, .invalid)
  let after ← Word.add? start 1
  let following := table.entries.entries.find? fun entry => after ≤ Int64.ofNat entry.1
  some
    { verified := kind = .start
      start := start
      stop := (following.map fun entry => Int64.ofNat entry.1).getD table.length }

def ofLines (lines : List (Int64 × LineKind)) : WordTable :=
  lines.foldl (fun table told => table.register told.1 told.2) {}

structure Holds (words : WordTable) (table : LineTable) : Prop where
  entries : words.entries = table.entries
  length : words.length.toInt = table.length

theorem holds_default : Holds {} {} := ⟨rfl, rfl⟩

theorem Holds.register {words : WordTable} {table : LineTable} (holds : words.Holds table)
    (valid : table.Valid) (line : Int64) (kind : LineKind) :
    (words.register line kind).Holds (table.register line kind) := by
  have nonempty := valid.nonempty
  have sameLength := holds.length
  by_cases positive : 0 < line.toInt
  · have index : LineTable.lineIndex line ≠ 0 :=
      mt LineTable.lineIndex_eq_zero_iff.mp (not_le.mpr positive)
    have natural : ¬ line < 0 := by
      rw [Int64.lt_iff_toInt_lt, Int64.toInt_zero]
      omega
    have above : 0 < line := by rwa [Int64.lt_iff_toInt_lt, Int64.toInt_zero]
    constructor
    · simp only [WordTable.register, natural, above, if_true, if_false, LineTable.register, index,
        holds.entries]
    · rw [LineTable.length_register table kind index]
      simp only [WordTable.register, natural, if_false, Int64.le_iff_toInt_le]
      by_cases beyond : words.length.toInt ≤ line.toInt
      · have grows : table.length ≤ LineTable.lineIndex line := by
          simp only [LineTable.lineIndex]
          omega
        rw [if_pos beyond, if_pos grows, Word.next_toInt]
        simp only [LineTable.lineIndex, LineTable.maxLine_eq]
        omega
      · have stays : ¬ table.length ≤ LineTable.lineIndex line := by
          simp only [LineTable.lineIndex]
          omega
        rw [if_neg beyond, if_neg stays, sameLength]
  · have zero : LineTable.lineIndex line = 0 :=
      LineTable.lineIndex_eq_zero_iff.mpr (not_lt.mp positive)
    have same : words.register line kind = words := by
      by_cases negative : line < 0
      · exact if_pos negative
      · have nothing : ¬ 0 < line := by rwa [Int64.lt_iff_toInt_lt, Int64.toInt_zero]
        have inside : ¬ words.length ≤ line := by
          rw [Int64.le_iff_toInt_le]
          omega
        simp only [WordTable.register, negative, nothing, inside, if_false]
    rw [same, LineTable.register_of_zero table kind zero]
    exact holds

theorem holds_ofLines (lines : List (Int64 × LineKind)) :
    (ofLines lines).Holds (LineTable.ofLines lines) := by
  induction lines using List.reverseRecOn with
  | nil => exact holds_default
  | append_singleton lines told ih =>
      have step : ofLines (lines ++ [told]) = (ofLines lines).register told.1 told.2 := by
        simp [ofLines, List.foldl_append]
      rw [step, LineTable.ofLines_concat]
      exact ih.register (LineTable.valid_ofLines lines) told.1 told.2

end WordTable

namespace LineTable

theorem Valid.key_lt {table : LineTable} (valid : table.Valid) {line : Nat} {kind : LineKind}
    (told : table.entries.get? line = some kind) : line < 2 ^ 63 := by
  have limited := valid.limited
  rw [maxLine_eq] at limited
  rcases valid.covered line kind told with below | ⟨last, _⟩
  · omega
  · rw [maxLine_eq] at last
    omega

theorem Valid.find?_after {table : LineTable} (valid : table.Valid) {start : Nat} {after : Int64}
    (next : after.toInt = start + 1) :
    (table.entries.entries.find? fun entry => after ≤ Int64.ofNat entry.1) =
      table.entries.above? start := by
  apply List.find?_congr
  intro entry member
  have key := valid.key_lt (NumberMap.get?_eq_some_iff.mpr member)
  rw [decide_eq_decide, Int64.le_iff_toInt_le, Int64.toInt_ofNat_of_lt key]
  omega

end LineTable

namespace WordTable

/-- The line of a table that a requested line counts as is computed without overflow. -/
theorem Holds.nearest {words : WordTable} {table : LineTable} (holds : words.Holds table)
    (valid : table.Valid) (line : Int64) :
    ∃ last clamped, Word.sub? words.length 1 = some last ∧
      Word.clamp? line 0 last = some clamped ∧
      LineTable.lineIndex clamped = table.nearest line := by
  have nonempty := valid.nonempty
  have sameLength := holds.length
  obtain ⟨last, lastFound, lastValue⟩ :=
    Word.sub?_one (by omega : -2 ^ 63 < words.length.toInt)
  have ordered : (0 : Int64).toInt ≤ last.toInt := by
    rw [Int64.toInt_zero]
    omega
  obtain ⟨clamped, clampedFound, clampedValue⟩ := Word.clamp?_of_le line ordered
  refine ⟨last, clamped, lastFound, clampedFound, ?_⟩
  rw [Int64.toInt_zero] at clampedValue
  simp only [LineTable.lineIndex, LineTable.nearest]
  omega

theorem Holds.resolve? {words : WordTable} {table : LineTable} (holds : words.Holds table)
    (valid : table.Valid) (line : Int64) :
    ∃ range, words.resolve? line = some range ∧ range.Denotes (table.resolve line) := by
  obtain ⟨last, clamped, lastFound, clampedFound, nearest⟩ := holds.nearest valid line
  obtain ⟨⟨start, kind⟩, found⟩ := valid.entry_atOrBelow (table.nearest line)
  obtain ⟨told, least, _⟩ := NumberMap.atOrBelow?_some found
  simp only at told least
  have startValue : (Int64.ofNat start).toInt = start :=
    Int64.toInt_ofNat_of_lt (valid.key_lt told)
  have below : (Int64.ofNat start).toInt < 2 ^ 63 - 1 := by
    have inside := valid.nearest_lt line
    have limited := valid.limited
    rw [LineTable.maxLine_eq] at limited
    omega
  obtain ⟨after, afterFound, afterValue⟩ := Word.add?_one below
  rw [startValue] at afterValue
  refine ⟨⟨decide (kind = .start), Int64.ofNat start,
    ((table.entries.above? start).map fun entry => Int64.ofNat entry.1).getD words.length⟩, ?_, ?_⟩
  · simp only [WordTable.resolve?, lastFound, clampedFound, holds.entries, nearest, found,
      afterFound, valid.find?_after afterValue, Option.bind_eq_bind, Option.bind_some,
      Option.map_some, Option.getD_some]
  · rw [LineTable.resolve_of_entries found]
    refine ⟨rfl, startValue, ?_⟩
    cases beyond : table.entries.above? start with
    | none => exact holds.length
    | some entry =>
        exact Int64.toInt_ofNat_of_lt (valid.key_lt (NumberMap.above?_some beyond).1)

end WordTable

theorem WordRange.Denotes.endLine {resolution : Resolution} {range : WordRange}
    (denotes : range.Denotes resolution) (nonempty : resolution.start < resolution.stop) :
    ∃ last, range.endLine? = some last ∧ last.toInt = (resolution.stop - 1 : Nat) ∧
      range.start ≤ last := by
  have start := denotes.start
  have stop := denotes.stop
  obtain ⟨last, found, value⟩ := Word.sub?_one (by omega : -2 ^ 63 < range.stop.toInt)
  refine ⟨last, found, by omega, ?_⟩
  rw [Int64.le_iff_toInt_le]
  omega

theorem WordRange.Denotes.report {resolution : Resolution} {range : WordRange}
    (denotes : range.Denotes resolution) (nonempty : resolution.start < resolution.stop)
    {breakpoint : LineBreakpoint} (resolved : breakpoint.resolution = some resolution) :
    breakpoint.report.line = some range.start ∧ breakpoint.report.endLine = range.endLine? := by
  have start := denotes.start
  have most := Int64.toInt_lt range.start
  obtain ⟨last, found, value, _⟩ := denotes.endLine nonempty
  have bound := Int64.toInt_lt last
  have startWord : Int64.ofNat resolution.start = range.start := by
    rw [← Int64.toInt_inj, Int64.toInt_ofNat_of_lt (by omega), start]
  have lastWord : Int64.ofNat (resolution.stop - 1) = last := by
    rw [← Int64.toInt_inj, Int64.toInt_ofNat_of_lt (by omega), value]
  constructor
  · simp only [LineBreakpoint.report, resolved, startWord]
  · simp only [LineBreakpoint.report, resolved, lastWord, found]

end Debuggee
