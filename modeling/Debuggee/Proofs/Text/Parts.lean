import Debuggee.Proofs.Text.Redaction

/-!
The shape of redaction. Double quotes cut a diagnostic into parts, and every second part is hidden
unless the diagnostic ends in it. Of what is left, the part between the first two backticks is hidden.
Nothing else changes, and what is hidden leaves no trace.
-/

namespace Debuggee.Text

open redactQuoted (outside inside)

variable {symbols before value name after shown rest : List Char}

section Cuts

variable {mark : Char}

theorem exists_one (few : symbols.count mark ≤ 1) (marked : mark ∈ symbols) :
    ∃ before after, symbols = before ++ mark :: after ∧ mark ∉ before ∧ mark ∉ after := by
  obtain ⟨before, after, rfl, absent⟩ := List.eq_append_cons_of_mem marked
  rw [List.count_append, List.count_cons_self] at few
  exact ⟨before, after, rfl, absent, List.count_eq_zero.mp (by omega)⟩

theorem exists_two (many : 2 ≤ symbols.count mark) :
    ∃ before between after, symbols = before ++ mark :: (between ++ mark :: after) ∧
      mark ∉ before ∧ mark ∉ between := by
  obtain ⟨before, rest, rfl, absent⟩ :=
    List.eq_append_cons_of_mem (List.count_pos_iff.mp (by omega : 0 < symbols.count mark))
  rw [List.count_append, List.count_cons_self, List.count_eq_zero_of_not_mem absent] at many
  obtain ⟨between, after, rfl, absentBetween⟩ :=
    List.eq_append_cons_of_mem (List.count_pos_iff.mp (by omega : 0 < rest.count mark))
  exact ⟨before, between, after, rfl, absent, absentBetween⟩

theorem exists_of_append_eq (absent : mark ∉ before)
    (whole : before ++ after = shown ++ mark :: rest) :
    ∃ last, shown = before ++ last ∧ after = last ++ mark :: rest := by
  rcases List.append_eq_append_iff.mp whole with behind | ⟨passed, same, later⟩
  · exact behind
  · rcases List.cons_eq_append_iff.mp later with ⟨rfl, ended⟩ | ⟨last, rfl, _⟩
    · exact ⟨[], by simp [same], ended⟩
    · simp [same] at absent

end Cuts

@[elab_as_elim]
theorem closedQuotes_induction {motive : List Char → Prop}
    (few : ∀ symbols, symbols.count '\"' ≤ 1 → motive symbols)
    (closed : ∀ before value after, '\"' ∉ before → '\"' ∉ value → motive after →
      motive (before ++ '\"' :: (value ++ '\"' :: after))) (symbols : List Char) :
    motive symbols := by
  induction length : symbols.length using Nat.strongRecOn generalizing symbols with
  | ind length ih =>
      by_cases most : symbols.count '\"' ≤ 1
      · exact few symbols most
      · obtain ⟨before, value, after, rfl, unquoted, unquotedValue⟩ :=
          exists_two (by omega : 2 ≤ symbols.count '\"')
        refine closed before value after unquoted unquotedValue (ih after.length ?_ after rfl)
        simp only [← length, List.length_append, List.length_cons]
        omega

section Quotes

theorem inside_of_unquoted (unquoted : '\"' ∉ symbols) (passed : List Char) :
    inside passed symbols = passed.reverse ++ symbols := by
  induction symbols generalizing passed with
  | nil => simp [inside]
  | cons symbol symbols ih =>
      rw [List.mem_cons, not_or] at unquoted
      simp [inside, Ne.symm unquoted.1, ih unquoted.2]

theorem redactQuoted_of_few (few : symbols.count '\"' ≤ 1) : redactQuoted symbols = symbols := by
  have plain : ∀ text : List Char, '\"' ∉ text → redactQuoted text = text := by
    intro text unquoted
    have ended : outside (text ++ []) = text ++ outside [] := outside_append unquoted
    rwa [outside, List.append_nil] at ended
  by_cases quoted : '\"' ∈ symbols
  · obtain ⟨before, rest, rfl, unquoted, unquotedRest⟩ := exists_one few quoted
    rw [redactQuoted, outside_append unquoted, outside,
      inside_of_unquoted unquotedRest, List.reverse_nil, List.nil_append]
  · exact plain symbols quoted

theorem redactQuoted_closed (unquoted : '\"' ∉ before) (unquotedValue : '\"' ∉ value) :
    redactQuoted (before ++ '\"' :: (value ++ '\"' :: after)) =
      before ++ '\"' :: (redacted ++ '\"' :: redactQuoted after) := by
  rw [redactQuoted, outside_append unquoted, outside,
    inside_append_quote unquotedValue, redactQuoted]

theorem redactQuoted_append_of_even (even : Even (before.count '\"')) :
    redactQuoted (before ++ after) = redactQuoted before ++ redactQuoted after := by
  induction before using closedQuotes_induction with
  | few before few =>
      have none : before.count '\"' = 0 := by
        obtain ⟨half, whole⟩ := even
        omega
      rw [redactQuoted_of_few few]
      exact outside_append (List.count_eq_zero.mp none)
  | closed first value rest unquoted unquotedValue ih =>
      have evenRest : Even (rest.count '\"') := by
        simpa [List.count_eq_zero_of_not_mem unquoted, List.count_eq_zero_of_not_mem unquotedValue,
          Nat.even_add_one] using even
      rw [redactQuoted_closed unquoted unquotedValue, List.append_assoc, List.cons_append,
        List.append_assoc, List.cons_append, redactQuoted_closed unquoted unquotedValue, ih evenRest]
      simp

theorem redactQuoted_append_of_unquoted (unquoted : '\"' ∉ after) :
    redactQuoted (before ++ after) = redactQuoted before ++ after := by
  induction before using closedQuotes_induction with
  | few before few =>
      have fewStill : (before ++ after).count '\"' ≤ 1 := by
        rwa [List.count_append, List.count_eq_zero_of_not_mem unquoted]
      rw [redactQuoted_of_few few, redactQuoted_of_few fewStill]
  | closed first value rest unquotedFirst unquotedValue ih =>
      rw [redactQuoted_closed unquotedFirst unquotedValue, List.append_assoc, List.cons_append,
        List.append_assoc, List.cons_append, redactQuoted_closed unquotedFirst unquotedValue, ih]
      simp

@[simp]
theorem redactQuoted_redactQuoted (symbols : List Char) :
    redactQuoted (redactQuoted symbols) = redactQuoted symbols := by
  induction symbols using closedQuotes_induction with
  | few symbols few => rw [redactQuoted_of_few few, redactQuoted_of_few few]
  | closed before value after unquoted unquotedValue ih =>
      have hidden : '\"' ∉ redacted := by decide
      rw [redactQuoted_closed unquoted unquotedValue, redactQuoted_closed unquoted hidden, ih]

/-- The parts between double quotes, every second one hidden, but for the last. -/
def hideQuoted (parts : List (List Char)) : List (List Char) :=
  parts.mapIdx fun index part =>
    if index % 2 = 1 ∧ index + 1 < parts.length then redacted else part

theorem hideQuoted_cons {parts : List (List Char)} (more : parts ≠ []) (first second : List Char) :
    hideQuoted (first :: second :: parts) = first :: redacted :: hideQuoted parts := by
  have positive := List.length_pos_of_ne_nil more
  simp only [hideQuoted, List.mapIdx_cons, List.length_cons, List.cons.injEq]
  refine ⟨if_neg (by omega), if_pos ⟨by decide, by omega⟩, List.mapIdx_eq_mapIdx_iff.mpr ?_⟩
  intro index _
  have same : (index + 1 + 1) % 2 = 1 ∧ index + 1 + 1 + 1 < parts.length + 1 + 1 ↔
      index % 2 = 1 ∧ index + 1 < parts.length := by
    omega
  simp only [same]

theorem splitOn_redactQuoted (symbols : List Char) :
    (redactQuoted symbols).splitOn '\"' = hideQuoted (symbols.splitOn '\"') := by
  induction symbols using closedQuotes_induction with
  | few symbols few =>
      rw [redactQuoted_of_few few]
      by_cases quoted : '\"' ∈ symbols
      · obtain ⟨before, rest, rfl, unquoted, unquotedRest⟩ := exists_one few quoted
        rw [List.splitOn_append_cons_self_of_not_mem unquoted,
          List.splitOn_eq_singleton unquotedRest]
        rfl
      · rw [List.splitOn_eq_singleton quoted]
        rfl
  | closed before value after unquoted unquotedValue ih =>
      have hidden : '\"' ∉ redacted := by decide
      rw [redactQuoted_closed unquoted unquotedValue,
        List.splitOn_append_cons_self_of_not_mem unquoted,
        List.splitOn_append_cons_self_of_not_mem unquoted,
        List.splitOn_append_cons_self_of_not_mem hidden,
        List.splitOn_append_cons_self_of_not_mem unquotedValue,
        hideQuoted_cons (List.splitOn_ne_nil _ _), ih]

theorem exists_of_redactQuoted_eq (left : redactQuoted symbols = shown ++ '\x60' :: rest) :
    ∃ before after, symbols = before ++ '\x60' :: after ∧ redactQuoted before = shown ∧
      redactQuoted after = rest ∧ (Even (before.count '\"') ∨ '\"' ∉ after) := by
  induction symbols using closedQuotes_induction generalizing shown with
  | few symbols few =>
      rw [redactQuoted_of_few few] at left
      subst left
      simp only [List.count_append, List.count_cons] at few
      refine ⟨shown, rest, rfl, redactQuoted_of_few (by omega), redactQuoted_of_few (by omega), ?_⟩
      by_cases none : shown.count '\"' = 0
      · exact Or.inl (by simp [none])
      · exact Or.inr (List.count_eq_zero.mp (by omega))
  | closed before value after unquoted unquotedValue ih =>
      rw [redactQuoted_closed unquoted unquotedValue] at left
      rcases List.append_eq_append_iff.mp left with ⟨passed, whole, later⟩ | ⟨passed, whole, later⟩
      · -- The backtick comes behind the closed quotes, as there is none in what is put between them.
        have absent : '\x60' ∉ quotedMark := by decide
        have pair : quotedMark ++ redactQuoted after = passed ++ '\x60' :: rest := by
          simpa [quotedMark] using later
        obtain ⟨last, rfl, leftAfter⟩ := exists_of_append_eq absent pair
        obtain ⟨first, second, rfl, firstShown, secondShown, place⟩ := ih leftAfter
        refine ⟨before ++ '\"' :: (value ++ '\"' :: first), second, by simp, ?_, secondShown, ?_⟩
        · rw [redactQuoted_closed unquoted unquotedValue, firstShown, whole]
          simp [quotedMark]
        · refine place.imp_left fun even => ?_
          simpa [List.count_eq_zero_of_not_mem unquoted,
            List.count_eq_zero_of_not_mem unquotedValue, Nat.even_add_one] using even
      · rcases List.cons_eq_append_iff.mp later with ⟨_, contrary⟩ | ⟨second, rfl, rfl⟩
        · simp at contrary
        · rw [whole] at unquoted ⊢
          rw [List.mem_append, not_or, List.mem_cons, not_or] at unquoted
          refine ⟨shown, second ++ '\"' :: (value ++ '\"' :: after), by simp, ?_, ?_, ?_⟩
          · exact redactQuoted_of_few (by simp [List.count_eq_zero_of_not_mem unquoted.1])
          · exact redactQuoted_closed unquoted.2.2 unquotedValue
          · exact Or.inl (by simp [List.count_eq_zero_of_not_mem unquoted.1])

end Quotes

section Names

theorem passes_of_unnamed (unnamed : '\x60' ∉ symbols) :
    ∀ symbol ∈ symbols, decide (symbol ≠ '\x60') = true := by
  intro symbol member
  exact decide_eq_true fun same => unnamed (same ▸ member)

theorem redactFirstName_between (unnamed : '\x60' ∉ before) (unnamedName : '\x60' ∉ name) :
    redactFirstName (before ++ '\x60' :: (name ++ '\x60' :: after)) =
      before ++ '\x60' :: (redacted ++ '\x60' :: after) := by
  have stops : ('\x60' :: after).dropWhile (· ≠ '\x60') = '\x60' :: after :=
    List.dropWhile_cons_of_neg (by simp)
  rw [redactFirstName, List.takeWhile_append_of_pos (passes_of_unnamed unnamed),
    List.dropWhile_append_of_pos (passes_of_unnamed unnamed),
    List.dropWhile_cons_of_neg (by simp), List.takeWhile_cons_of_neg (by simp)]
  simp only [List.dropWhile_append_of_pos (passes_of_unnamed unnamedName), stops,
    List.append_nil, List.append_assoc, List.cons_append]

theorem redactFirstName_of_few (few : symbols.count '\x60' ≤ 1) :
    redactFirstName symbols = symbols := by
  by_cases named : '\x60' ∈ symbols
  · obtain ⟨before, rest, rfl, unnamed, unnamedRest⟩ := exists_one few named
    rw [redactFirstName, List.dropWhile_append_of_pos (passes_of_unnamed unnamed),
      List.dropWhile_cons_of_neg (by simp)]
    simp only [List.dropWhile_eq_nil_iff.mpr (passes_of_unnamed unnamedRest)]
  · exact redactFirstName_of_not_mem named

end Names

section Both

variable (left : redactQuoted symbols = before ++ '\x60' :: (name ++ '\x60' :: after))
include left

theorem redactQuoted_renamed {other : List Char} (unquoted : '\"' ∉ other) :
    redactQuoted (before ++ '\x60' :: (other ++ '\x60' :: after)) =
      before ++ '\x60' :: (other ++ '\x60' :: after) := by
  obtain ⟨first, rest, rfl, firstShown, restShown, place⟩ := exists_of_redactQuoted_eq left
  obtain ⟨second, last, rfl, _, lastShown, _⟩ := exists_of_redactQuoted_eq restShown
  have settled : redactQuoted before = before := by
    rw [← firstShown, redactQuoted_redactQuoted]
  rcases place with even | unquotedRest
  · have evenBefore : Even (before.count '\"') := by
      rwa [← firstShown, count_redactQuoted]
    have evenName : Even (('\x60' :: (other ++ ['\x60'])).count '\"') := by
      simp [List.count_eq_zero_of_not_mem unquoted]
    have whole : '\x60' :: (other ++ '\x60' :: after) =
        '\x60' :: (other ++ ['\x60']) ++ after := by
      simp
    rw [redactQuoted_append_of_even evenBefore, settled, whole,
      redactQuoted_append_of_even evenName,
      redactQuoted_of_few (by simp [List.count_eq_zero_of_not_mem unquoted]), ← lastShown,
      redactQuoted_redactQuoted]
  · have unquotedLast : '\"' ∉ last := by
      simp only [List.mem_append, List.mem_cons, not_or] at unquotedRest
      exact unquotedRest.2.2
    have same : after = last := by
      rw [← lastShown, redactQuoted_of_few (by simp [List.count_eq_zero_of_not_mem unquotedLast])]
    have unquotedTail : '\"' ∉ '\x60' :: (other ++ '\x60' :: after) := by
      simp [unquoted, same, unquotedLast]
    rw [redactQuoted_append_of_unquoted unquotedTail, settled]

variable (unnamed : '\x60' ∉ before) (unnamedName : '\x60' ∉ name)
include unnamed unnamedName

theorem redactList_between :
    redactList symbols = before ++ '\x60' :: (redacted ++ '\x60' :: after) := by
  rw [redactList, left, redactFirstName_between unnamed unnamedName]

theorem redactList_renamed {other : List Char} (plain : Plain other) :
    redactFirstName (before ++ '\x60' :: (other ++ '\x60' :: after)) = redactList symbols ∧
      redactList (before ++ '\x60' :: (other ++ '\x60' :: after)) = redactList symbols := by
  have hidden : redactFirstName (before ++ '\x60' :: (other ++ '\x60' :: after)) =
      redactList symbols := by
    rw [redactFirstName_between unnamed plain.2, redactList_between left unnamed unnamedName]
  exact ⟨hidden, by rw [redactList, redactQuoted_renamed left plain.1, hidden]⟩

end Both

theorem redactList_of_few (few : (redactQuoted symbols).count '\x60' ≤ 1) :
    redactList symbols = redactQuoted symbols := by
  rw [redactList, redactFirstName_of_few few]

theorem redactList_redactList (symbols : List Char) :
    redactList (redactList symbols) = redactList symbols := by
  by_cases few : (redactQuoted symbols).count '\x60' ≤ 1
  · rw [redactList_of_few few, redactList, redactQuoted_redactQuoted, redactFirstName_of_few few]
  · have many : 2 ≤ (redactQuoted symbols).count '\x60' := by omega
    obtain ⟨before, name, after, left, unnamed, unnamedName⟩ := exists_two many
    have mark : Plain redacted := by decide
    have hidden := redactList_between left unnamed unnamedName
    rw [hidden, (redactList_renamed left unnamed unnamedName mark).2, hidden]

/-- What is kept of a diagnostic: all of it but for the name, except for what its quotes hide. -/
theorem redactList_cases (symbols : List Char) :
    (redactQuoted symbols).count '\x60' ≤ 1 ∧ redactList symbols = redactQuoted symbols ∨
      ∃ before name after, symbols = before ++ '\x60' :: (name ++ '\x60' :: after) ∧
        redactQuoted symbols = redactQuoted before ++
          '\x60' :: (redactQuoted name ++ '\x60' :: redactQuoted after) ∧
        '\x60' ∉ redactQuoted before ∧ '\x60' ∉ redactQuoted name ∧
        redactList symbols = redactQuoted before ++
          '\x60' :: (redacted ++ '\x60' :: redactQuoted after) := by
  by_cases few : (redactQuoted symbols).count '\x60' ≤ 1
  · exact Or.inl ⟨few, redactList_of_few few⟩
  · right
    have many : 2 ≤ (redactQuoted symbols).count '\x60' := by omega
    obtain ⟨shown, name, after, left, unnamed, unnamedName⟩ := exists_two many
    have hidden := redactList_between left unnamed unnamedName
    obtain ⟨before, rest, rfl, rfl, restShown, _⟩ := exists_of_redactQuoted_eq left
    obtain ⟨between, last, rfl, rfl, rfl, _⟩ := exists_of_redactQuoted_eq restShown
    exact ⟨before, between, last, rfl, left, unnamed, unnamedName, hidden⟩

/-- What stands between a double quote of odd number and the next one is not seen. -/
theorem redactList_requoted {other : List Char} (even : Even (before.count '\"'))
    (unquoted : '\"' ∉ value) (unquotedOther : '\"' ∉ other) :
    redactList (before ++ '\"' :: (other ++ '\"' :: after)) =
      redactList (before ++ '\"' :: (value ++ '\"' :: after)) := by
  have hidden : ∀ text : List Char, '\"' ∉ text →
      redactQuoted ('\"' :: (text ++ '\"' :: after)) =
        '\"' :: (redacted ++ '\"' :: redactQuoted after) := by
    intro text absent
    exact redactQuoted_closed List.not_mem_nil absent
  rw [redactList, redactList, redactQuoted_append_of_even even, redactQuoted_append_of_even even,
    hidden other unquotedOther, hidden value unquoted]

/--
Redacting twice is redacting once. A quoted text may be replaced by any text without double quotes,
and once these are hidden, the part between the first two backticks by any plain text, without a
change. All else is kept: the parts between double quotes that are not hidden, and the texts before
the first name and after it.
-/
theorem redact_shape (diagnostic : String) :
    redact (redact diagnostic) = redact diagnostic ∧
    (∀ before value other after : List Char,
      diagnostic.toList = before ++ '\"' :: (value ++ '\"' :: after) →
      Even (before.count '\"') → '\"' ∉ value → '\"' ∉ other →
      redact (String.ofList (before ++ '\"' :: (other ++ '\"' :: after))) = redact diagnostic) ∧
    (∀ before name other after : List Char,
      redactQuoted diagnostic.toList = before ++ '\x60' :: (name ++ '\x60' :: after) →
      '\x60' ∉ before → '\x60' ∉ name → Plain other →
      let renamed := before ++ '\x60' :: (other ++ '\x60' :: after)
      redactFirstName renamed = (redact diagnostic).toList ∧
        redact (String.ofList renamed) = redact diagnostic) ∧
    (∀ symbols, (redactQuoted symbols).splitOn '\"' = hideQuoted (symbols.splitOn '\"')) ∧
    ((redactQuoted diagnostic.toList).count '\x60' ≤ 1 ∧
        (redact diagnostic).toList = redactQuoted diagnostic.toList ∨
      ∃ before name after, diagnostic.toList = before ++ '\x60' :: (name ++ '\x60' :: after) ∧
        redactQuoted diagnostic.toList = redactQuoted before ++
          '\x60' :: (redactQuoted name ++ '\x60' :: redactQuoted after) ∧
        '\x60' ∉ redactQuoted before ∧ '\x60' ∉ redactQuoted name ∧
        (redact diagnostic).toList = redactQuoted before ++
          '\x60' :: (redacted ++ '\x60' :: redactQuoted after)) := by
  have shown : (redact diagnostic).toList = redactList diagnostic.toList := String.toList_ofList
  refine ⟨?_, ?_, ?_, splitOn_redactQuoted, ?_⟩
  · rw [redact, shown, redactList_redactList, redact]
  · intro before value other after whole even unquoted unquotedOther
    rw [redact, redact, whole, String.toList_ofList,
      redactList_requoted even unquoted unquotedOther]
  · intro before name other after left unnamed unnamedName plain renamed
    obtain ⟨hidden, same⟩ := redactList_renamed left unnamed unnamedName plain
    refine ⟨hidden.trans shown.symm, ?_⟩
    rw [redact, String.toList_ofList, same, redact]
  · rw [shown]
    exact redactList_cases diagnostic.toList

def awkwardDiagnostic : String := "at \"x\" `a\"b\"c` of `d`, \"e"

theorem redact_shape_of_awkward :
    redact awkwardDiagnostic = "at \"<redacted>\" `<redacted>` of `d`, \"e" ∧
      redact (redact awkwardDiagnostic) = redact awkwardDiagnostic ∧
      redact (String.ofList ("at ".toList ++
        '\"' :: ("other".toList ++ '\"' :: " `a\"b\"c` of `d`, \"e".toList))) =
          redact awkwardDiagnostic ∧
      redact (String.ofList ("at \"<redacted>\" ".toList ++
        '\x60' :: ("other".toList ++ '\x60' :: " of `d`, \"e".toList))) =
          redact awkwardDiagnostic := by
  obtain ⟨twice, requoted, renamed, _⟩ := redact_shape awkwardDiagnostic
  exact ⟨by decide, twice,
    requoted "at ".toList "x".toList "other".toList " `a\"b\"c` of `d`, \"e".toList (by decide)
      (by decide) (by decide) (by decide),
    (renamed "at \"<redacted>\" ".toList "a\"<redacted>\"c".toList "other".toList
      " of `d`, \"e".toList (by decide) (by decide) (by decide) (by decide)).2⟩

end Debuggee.Text
