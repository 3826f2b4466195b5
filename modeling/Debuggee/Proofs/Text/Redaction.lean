import Debuggee.Text.Quoted
import Debuggee.Text.Redaction
import Mathlib

/-!
What redaction leaves of a quoted text. Quoting puts a backslash before a double quote but keeps
the quote, and redaction pairs all double quotes alike. So the text is hidden as a whole if it has
no double quote, and if it has one then the diagnostic tells.
-/

namespace Debuggee.Text

open redactQuoted (outside inside)

def Plain (symbols : List Char) : Prop :=
  '\"' ∉ symbols ∧ '\x60' ∉ symbols
  deriving Decidable

def quotedMark : List Char :=
  '\"' :: (redacted ++ ['\"'])

section Quoting

theorem quote_not_mem_toDigits (n : Nat) : '\"' ∉ Nat.toDigits 16 n := by
  induction n using Nat.strongRecOn with
  | _ n ih =>
      have digit : ∀ d < 16, '\"' ≠ Nat.digitChar d := by decide
      rcases Nat.lt_or_ge n 16 with small | large
      · rw [Nat.toDigits_of_lt_base small, List.mem_singleton]
        exact digit n small
      · rw [Nat.toDigits_of_base_le (by decide) large, List.mem_append, List.mem_singleton]
        exact not_or.mpr ⟨ih (n / 16) (by omega), digit (n % 16) (Nat.mod_lt n (by decide))⟩

theorem quote_mem_quotedSymbol (symbol : Char) :
    '\"' ∈ quotedSymbol symbol ↔ symbol = '\"' := by
  unfold quotedSymbol
  split_ifs with quote
  · simp [quote]
  all_goals simp [quote, quote_not_mem_toDigits]
  exact Ne.symm quote

theorem quote_mem_flatMap_quotedSymbol (text : List Char) :
    '\"' ∈ text.flatMap quotedSymbol ↔ '\"' ∈ text := by
  simp [List.mem_flatMap, quote_mem_quotedSymbol]

end Quoting

section Redaction

variable {before after : List Char}

theorem outside_append (unquoted : '\"' ∉ before) :
    outside (before ++ after) = before ++ outside after := by
  induction before with
  | nil => rfl
  | cons symbol before ih =>
      rw [List.mem_cons, not_or] at unquoted
      simp [outside, Ne.symm unquoted.1, ih unquoted.2]

theorem inside_append_quote (unquoted : '\"' ∉ before) (passed : List Char) :
    inside passed (before ++ '\"' :: after) = redacted ++ '\"' :: outside after := by
  induction before generalizing passed with
  | nil => rfl
  | cons symbol before ih =>
      rw [List.mem_cons, not_or] at unquoted
      simp [inside, Ne.symm unquoted.1, ih unquoted.2]

theorem count_redactQuoted (symbols : List Char) :
    (redactQuoted symbols).count '\"' = symbols.count '\"' := by
  have both : (outside symbols).count '\"' = symbols.count '\"' ∧
      ∀ passed : List Char, '\"' ∉ passed →
        (inside passed symbols).count '\"' = symbols.count '\"' := by
    induction symbols with
    | nil =>
        refine ⟨rfl, fun passed unquoted => ?_⟩
        simpa [inside, List.count_eq_zero] using unquoted
    | cons symbol rest ih =>
        by_cases quote : symbol = '\"'
        · subst quote
          have hidden : redacted.count '\"' = 0 := by decide
          simp [outside, inside, hidden, ih.1, ih.2]
        · refine ⟨by simp [outside, quote, ih.1], fun passed unquoted => ?_⟩
          have longer : '\"' ∉ symbol :: passed := by simp [Ne.symm quote, unquoted]
          simp [inside, quote, ih.2 _ longer]
  exact both.1

theorem redactFirstName_of_not_mem {symbols : List Char} (unnamed : '\x60' ∉ symbols) :
    redactFirstName symbols = symbols := by
  have whole : symbols.dropWhile (· ≠ '\x60') = [] := by
    rw [List.dropWhile_eq_nil_iff]
    intro symbol mem
    exact decide_eq_true fun same => unnamed (same ▸ mem)
  rw [redactFirstName, whole]

theorem redactFirstName_eq_or_mem (symbols : List Char) :
    redactFirstName symbols = symbols ∨ '\x60' ∈ redactFirstName symbols := by
  unfold redactFirstName
  split
  · exact Or.inl rfl
  · split
    · exact Or.inl rfl
    · exact Or.inr (by simp)

/-- A quoted text in plain surroundings is replaced if and only if it has no double quote. -/
theorem redactList_quotedList (plainBefore : Plain before) (plainAfter : Plain after)
    (text : List Char) :
    redactList (before ++ quotedList text ++ after) = before ++ quotedMark ++ after ↔
      '\"' ∉ text := by
  have split : before ++ quotedList text ++ after =
      before ++ '\"' :: (text.flatMap quotedSymbol ++ '\"' :: after) := by
    simp [quotedList]
  have marked : before ++ quotedMark ++ after =
      before ++ '\"' :: (redacted ++ '\"' :: after) := by
    simp [quotedMark]
  have plain : Plain redacted := by decide
  have unnamed : '\x60' ∉ before ++ '\"' :: (redacted ++ '\"' :: after) := by
    simp [plainBefore.2, plainAfter.2, plain.2]
  rw [split, marked, redactList]
  constructor
  · intro replaced quoted
    -- A replaced name would show by its backticks. So the double quotes are all there.
    rw [← replaced] at unnamed
    have kept := (redactFirstName_eq_or_mem _).resolve_right unnamed
    rw [kept] at replaced
    have counted := congrArg (List.count '\"') replaced
    rw [count_redactQuoted] at counted
    have more : 0 < (text.flatMap quotedSymbol).count '\"' :=
      List.count_pos_iff.mpr ((quote_mem_flatMap_quotedSymbol text).mpr quoted)
    simp only [List.count_append, List.count_cons_self, List.count_eq_zero_of_not_mem plain.1]
      at counted
    omega
  · intro unquoted
    have hidden := mt (quote_mem_flatMap_quotedSymbol text).mp unquoted
    have kept : outside after = after := by
      have ended : outside (after ++ []) = after ++ outside [] := outside_append plainAfter.1
      rwa [outside, List.append_nil] at ended
    have replaced : redactQuoted (before ++ '\"' :: (text.flatMap quotedSymbol ++ '\"' :: after)) =
        before ++ '\"' :: (redacted ++ '\"' :: after) := by
      rw [redactQuoted, outside_append plainBefore.1, outside, inside_append_quote hidden, kept]
    rw [replaced]
    exact redactFirstName_of_not_mem unnamed

end Redaction

end Debuggee.Text
