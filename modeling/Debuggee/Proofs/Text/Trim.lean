import Debuggee.Text.Blank
import Mathlib

/-! Trimming: a text is what is left of it between two ends of white space. -/

namespace Debuggee.Text

theorem trimEnd_append (keep : Char → Bool) (symbols : List Char) {ending : List Char}
    (kept : ∀ symbol ∈ ending, keep symbol) :
    trimEnd keep (symbols ++ ending) = trimEnd keep symbols := by
  have dropped : ∀ symbol ∈ ending.reverse, keep symbol :=
    fun symbol member => kept symbol (List.mem_reverse.mp member)
  rw [trimEnd, trimEnd, List.reverse_append, List.dropWhile_append_of_pos dropped]

theorem trimEnd_concat (keep : Char → Bool) (symbols : List Char) {last : Char}
    (stays : keep last = false) : trimEnd keep (symbols ++ [last]) = symbols ++ [last] := by
  simp [trimEnd, stays]

theorem trimEnd_append_dropped (keep : Char → Bool) (symbols : List Char) :
    ∃ ending, symbols = trimEnd keep symbols ++ ending ∧ ∀ symbol ∈ ending, keep symbol = true := by
  refine ⟨(symbols.reverse.takeWhile keep).reverse, ?_, ?_⟩
  · rw [trimEnd, ← List.reverse_append, List.takeWhile_append_dropWhile, List.reverse_reverse]
  · intro symbol member
    exact List.mem_takeWhile_imp (List.mem_reverse.mp member)

theorem trimList_of_ends {first last : Char} {symbols : List Char}
    (starts : symbols.head? = some first) (ends : symbols.getLast? = some last)
    (firstStays : isBlank first = false) (lastStays : isBlank last = false) :
    trimList symbols = symbols := by
  obtain ⟨later, sameFirst⟩ := List.head?_eq_some_iff.mp starts
  obtain ⟨earlier, sameLast⟩ := List.getLast?_eq_some_iff.mp ends
  have undropped : symbols.dropWhile isBlank = symbols := by
    rw [sameFirst, List.dropWhile_cons_of_neg (by simp [firstStays])]
  rw [trimList, undropped, sameLast]
  exact trimEnd_concat isBlank earlier lastStays

structure Trimmed (symbols inner : List Char) : Prop where
  around : ∃ front back, symbols = front ++ inner ++ back ∧
    (∀ symbol ∈ front, isBlank symbol = true) ∧ ∀ symbol ∈ back, isBlank symbol = true
  starts : ∀ first, inner.head? = some first → isBlank first = false
  ends : ∀ last, inner.getLast? = some last → isBlank last = false

theorem trimmed_trimList (symbols : List Char) : Trimmed symbols (trimList symbols) := by
  have front : symbols.takeWhile isBlank ++ symbols.dropWhile isBlank = symbols :=
    List.takeWhile_append_dropWhile
  generalize shown : symbols.dropWhile isBlank = middle at front
  have back : trimEnd isBlank middle ++ (middle.reverse.takeWhile isBlank).reverse = middle := by
    rw [trimEnd, ← List.reverse_append, List.takeWhile_append_dropWhile, List.reverse_reverse]
  have trimmed : trimList symbols = trimEnd isBlank middle := by rw [trimList, shown]
  rw [trimmed]
  constructor
  · refine ⟨symbols.takeWhile isBlank, (middle.reverse.takeWhile isBlank).reverse, ?_, ?_, ?_⟩
    · rw [List.append_assoc, back, front]
    · intro symbol member
      exact List.mem_takeWhile_imp member
    · intro symbol member
      exact List.mem_takeWhile_imp (List.mem_reverse.mp member)
  · intro first starts
    have sighted : middle.head? = some first := by
      rw [← back, List.head?_append, starts, Option.some_or]
    rw [← shown] at sighted
    have stopped := List.head?_dropWhile_not isBlank symbols
    rw [sighted] at stopped
    simpa using stopped
  · intro last ends
    rw [trimEnd, List.getLast?_reverse] at ends
    have stopped := List.head?_dropWhile_not isBlank middle.reverse
    rw [ends] at stopped
    simpa using stopped

theorem Trimmed.trimList_eq {symbols inner : List Char} (trimmed : Trimmed symbols inner) :
    trimList symbols = inner := by
  obtain ⟨front, back, whole, frontBlank, backBlank⟩ := trimmed.around
  cases first : inner.head? with
  | none =>
      have nothing : inner = [] := List.head?_eq_none_iff.mp first
      have dropped : symbols.dropWhile isBlank = [] := by
        rw [List.dropWhile_eq_nil_iff, whole, nothing]
        intro symbol member
        rcases List.mem_append.mp member with before | after
        · exact frontBlank symbol (by simpa using before)
        · exact backBlank symbol after
      rw [trimList, dropped, nothing]
      rfl
  | some symbol =>
      obtain ⟨later, split⟩ := List.head?_eq_some_iff.mp first
      have stays := trimmed.starts symbol first
      have dropped : symbols.dropWhile isBlank = inner ++ back := by
        rw [whole, List.append_assoc, List.dropWhile_append_of_pos frontBlank, split,
          List.cons_append, List.dropWhile_cons_of_neg (by simp [stays])]
      obtain ⟨last, ends⟩ : ∃ last, inner.getLast? = some last := by
        rw [split]
        exact ⟨_, List.getLast?_eq_some_getLast (by simp)⟩
      obtain ⟨earlier, endSplit⟩ := List.getLast?_eq_some_iff.mp ends
      rw [trimList, dropped, trimEnd_append isBlank inner backBlank, endSplit]
      exact trimEnd_concat isBlank earlier (trimmed.ends last ends)

theorem trimList_surrounded {before symbols after : List Char}
    (beforeBlank : ∀ symbol ∈ before, isBlank symbol = true)
    (afterBlank : ∀ symbol ∈ after, isBlank symbol = true) :
    trimList (before ++ symbols ++ after) = trimList symbols := by
  have inner := trimmed_trimList symbols
  obtain ⟨front, back, whole, frontBlank, backBlank⟩ := inner.around
  apply Trimmed.trimList_eq
  refine ⟨⟨before ++ front, back ++ after, ?_, ?_, ?_⟩, inner.starts, inner.ends⟩
  · conv_lhs => rw [whole]
    simp only [List.append_assoc]
  · exact List.forall_mem_append.mpr ⟨beforeBlank, frontBlank⟩
  · exact List.forall_mem_append.mpr ⟨backBlank, afterBlank⟩

theorem trimList_append {symbols ending : List Char}
    (blank : ∀ symbol ∈ ending, isBlank symbol = true) :
    trimList (symbols ++ ending) = trimList symbols :=
  trimList_surrounded (List.forall_mem_nil _) blank

theorem trimList_trimList (symbols : List Char) : trimList (trimList symbols) = trimList symbols := by
  have inner := trimmed_trimList symbols
  refine Trimmed.trimList_eq ⟨⟨[], [], ?_, List.forall_mem_nil _, List.forall_mem_nil _⟩, inner.starts,
    inner.ends⟩
  rw [List.nil_append, List.append_nil]

end Debuggee.Text
