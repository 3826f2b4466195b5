import Debuggee.Proofs.Frame.Cut
import Debuggee.Proofs.Frame.Header

/-!
The grammar of frames. A payload is read from a stream if and only if the stream begins with a head
and that payload: lines that have something to say, the last length among them that of the payload,
and then an ending of nothing but carriage returns.
-/

namespace Debuggee.Frame

open Bytes (ascii)

/-- What the reader takes for a line; the last line of a stream need not be closed. -/
structure IsLine (line following : Bytes) : Prop where
  short : line.length ≤ maxHeaderLine
  closed : (∃ before, line = before ++ [newline] ∧ newline ∉ before) ∨
    line ≠ [] ∧ newline ∉ line ∧ following = []

theorem splitLine_stops (limit : Nat) (octets : Bytes) :
    (∃ before, (splitLine limit octets).1 = before ++ [newline] ∧ newline ∉ before) ∨
      newline ∉ (splitLine limit octets).1 ∧
        ((splitLine limit octets).2 = [] ∨ (splitLine limit octets).1.length = limit) := by
  induction limit generalizing octets with
  | zero => exact Or.inr ⟨by simp [splitLine], Or.inr rfl⟩
  | succ limit ih =>
      cases octets with
      | nil => exact Or.inr ⟨by simp [splitLine], Or.inl rfl⟩
      | cons octet octets =>
          rw [splitLine]
          split
          · rename_i here
            exact Or.inl ⟨[], by simp [here], by simp⟩
          · rename_i other
            rcases ih octets with ⟨before, found, plain⟩ | ⟨plain, stopped⟩
            · refine Or.inl ⟨octet :: before, by simp [found], ?_⟩
              simp [plain, Ne.symm other]
            · refine Or.inr ⟨by simp [plain, Ne.symm other], ?_⟩
              rcases stopped with ended | full
              · exact Or.inl ended
              · exact Or.inr (by simp [full])

theorem nextLine_eq_line_iff {octets rest : Bytes} {text : String} :
    nextLine .closed octets = .line text rest ↔
      octets = Bytes.ofString text ++ rest ∧ IsLine (Bytes.ofString text) rest := by
  constructor
  · intro found
    have whole := splitLine_append (maxHeaderLine + 1) octets
    have stops := splitLine_stops (maxHeaderLine + 1) octets
    unfold nextLine at found
    generalize splitLine (maxHeaderLine + 1) octets = parts at found whole stops
    obtain ⟨line, left⟩ := parts
    simp only [or_true, if_true] at found whole stops
    split at found
    · contradiction
    · rename_i fits
      split at found
      · contradiction
      · rename_i occupied
        split at found
        · rename_i spelled
          rw [HeaderLine.line.injEq] at found
          obtain ⟨sameText, sameRest⟩ := found
          rw [← sameText, Bytes.ofString_of_text? spelled, ← sameRest]
          refine ⟨whole.symm, by omega, ?_⟩
          rcases stops with closed | ⟨plain, ended | full⟩
          · exact Or.inl closed
          · exact Or.inr ⟨by simpa using occupied, plain, ended⟩
          · omega
        · contradiction
  · rintro ⟨whole, line⟩
    have short := line.short
    have split : splitLine (maxHeaderLine + 1) octets = (Bytes.ofString text, rest) := by
      rcases line.closed with ⟨before, same, plain⟩ | ⟨_, plain, ended⟩
      · rw [same, List.length_append, List.length_singleton] at short
        rw [whole, same, List.append_assoc]
        exact splitLine_of_newline rest plain (by omega)
      · rw [whole, ended, List.append_nil]
        exact splitLine_of_plain plain (by omega)
    have fits : ¬ maxHeaderLine < (Bytes.ofString text).length := by omega
    have occupied : (Bytes.ofString text).isEmpty = false := by
      rcases line.closed with ⟨before, same, _⟩ | ⟨filled, _⟩
      · simp [same]
      · simpa using filled
    simp only [nextLine, split, if_neg fits, or_true, if_true, occupied, Bool.false_eq_true,
      if_false, Bytes.text?_ofString]

structure IsHeaderLine (line : String) : Prop where
  closed : ∃ before, Bytes.ofString line = before ++ [newline] ∧ newline ∉ before
  short : (Bytes.ofString line).length ≤ maxHeaderLine
  occupied : ∃ octet ∈ Bytes.ofString line, octet ≠ ascii '\r' ∧ octet ≠ newline

/-- What closes a head: carriage returns and a newline, which a stream that ends there may lack. -/
structure EndsHead (ending following : Bytes) : Prop where
  short : ending.length ≤ maxHeaderLine
  spelled : ∃ count, ending = List.replicate count (ascii '\r') ++ [newline] ∨
    0 < count ∧ ending = List.replicate count (ascii '\r') ∧ following = []

theorem IsHeaderLine.lineContent_ne_nil {line : String} (header : IsHeaderLine line) :
    lineContent line ≠ [] := by
  obtain ⟨octet, member, noReturn, noNewline⟩ := header.occupied
  intro empty
  rcases lineContent_eq_nil_iff_octets.mp empty octet member with same | same
  · exact noReturn same
  · exact noNewline same

theorem IsHeaderLine.nextLine_append {line : String} (header : IsHeaderLine line) (rest : Bytes) :
    nextLine .closed (Bytes.ofString line ++ rest) = .line line rest :=
  nextLine_eq_line_iff.mpr ⟨rfl, header.short, Or.inl header.closed⟩

theorem IsLine.isHeaderLine {line : String} {following : Bytes}
    (isLine : IsLine (Bytes.ofString line) following) (occupied : lineContent line ≠ [])
    (goesOn : following ≠ []) : IsHeaderLine line := by
  constructor
  · rcases isLine.closed with closed | ⟨_, _, ended⟩
    · exact closed
    · exact absurd ended goesOn
  · exact isLine.short
  · by_cases found : ∃ octet ∈ Bytes.ofString line, octet ≠ ascii '\r' ∧ octet ≠ newline
    · exact found
    · refine absurd (lineContent_eq_nil_iff_octets.mpr ?_) occupied
      intro octet member
      by_cases carriage : octet = ascii '\r'
      · exact Or.inl carriage
      · by_cases last : octet = newline
        · exact Or.inr last
        · exact absurd ⟨octet, member, carriage, last⟩ found

theorem IsLine.endsHead {line : String} {following : Bytes}
    (isLine : IsLine (Bytes.ofString line) following) (empty : lineContent line = []) :
    EndsHead (Bytes.ofString line) following := by
  have ends := lineContent_eq_nil_iff_octets.mp empty
  refine ⟨isLine.short, ?_⟩
  have returns : ∀ octets : Bytes, newline ∉ octets →
      (∀ octet ∈ octets, octet ∈ Bytes.ofString line) →
      octets = List.replicate octets.length (ascii '\r') := by
    intro octets plain inside
    refine List.eq_replicate_iff.mpr ⟨rfl, ?_⟩
    intro octet member
    rcases ends octet (inside octet member) with same | same
    · exact same
    · exact absurd (same ▸ member) plain
  rcases isLine.closed with ⟨before, same, plain⟩ | ⟨filled, plain, ended⟩
  · have inside : ∀ octet ∈ before, octet ∈ Bytes.ofString line := by
      intro octet member
      rw [same]
      exact List.mem_append_left _ member
    refine ⟨before.length, Or.inl ?_⟩
    rw [← returns before plain inside]
    exact same
  · have carriage := returns _ plain fun _ member => member
    exact ⟨_, Or.inr ⟨List.length_pos_of_ne_nil filled, carriage, ended⟩⟩

theorem EndsHead.exists_line {ending following : Bytes} (ends : EndsHead ending following) :
    ∃ line, nextLine .closed (ending ++ following) = .line line following ∧
      lineContent line = [] := by
  have seven : ∀ symbol ∈ ['\r', '\n'], symbol.toNat < 128 := by simp
  have noNewline : ∀ count, newline ∉ List.replicate count (ascii '\r') := by
    intro count member
    exact absurd (List.mem_replicate.mp member).2 (by decide)
  have spelled : ∃ symbols : List Char, ending = symbols.map ascii ∧
      (∀ symbol ∈ symbols, symbol = '\r' ∨ symbol = '\n') ∧ IsLine ending following := by
    obtain ⟨count, closed | ⟨positive, plain, ended⟩⟩ := ends.spelled
    · refine ⟨List.replicate count '\r' ++ ['\n'], by simp [closed, newline], ?_, ends.short, ?_⟩
      · intro symbol member
        rcases List.mem_append.mp member with carriage | last
        · exact Or.inl (List.mem_replicate.mp carriage).2
        · exact Or.inr (List.mem_singleton.mp last)
      · exact Or.inl ⟨_, closed, noNewline count⟩
    · refine ⟨List.replicate count '\r', by simp [plain], ?_, ends.short, ?_⟩
      · intro symbol member
        exact Or.inl (List.mem_replicate.mp member).2
      · refine Or.inr ⟨?_, by rw [plain]; exact noNewline count, ended⟩
        rw [plain]
        exact List.ne_nil_of_length_pos (by simpa using positive)
  obtain ⟨symbols, same, each, line⟩ := spelled
  have octets : Bytes.ofString (String.ofList symbols) = ending := by
    rw [same]
    apply Bytes.ofString_ofList_of_ascii
    intro symbol member
    exact seven symbol (by simpa using each symbol member)
  refine ⟨String.ofList symbols, ?_, ?_⟩
  · exact nextLine_eq_line_iff.mpr ⟨by rw [octets], by rw [octets]; exact line⟩
  · rw [lineContent_eq_nil_iff, String.toList_ofList]
    intro symbol member
    exact isLineEnd_iff.mpr (each symbol member)

theorem readPayload_eq_frame_iff {length : Nat} {octets payload rest : Bytes} :
    readPayload .closed length octets = .frame payload rest ↔
      payload.length ≤ maxPayload ∧ payload.length = length ∧ octets = payload ++ rest := by
  constructor
  · intro found
    unfold readPayload at found
    split at found
    · contradiction
    · rename_i fits
      simp only at found
      split at found
      · contradiction
      · rename_i enough
        rw [Reading.frame.injEq] at found
        obtain ⟨taken, left⟩ := found
        have most : (octets.take length).length ≤ length := List.length_take_le length octets
        rw [taken] at enough most
        exact ⟨by omega, by omega, by rw [← taken, ← left, List.take_append_drop]⟩
  · rintro ⟨fits, same, whole⟩
    rw [← same, whole]
    exact readPayload_append .closed rest fits

/-- The length that lines tell in the end, where `given` was told before them. -/
inductive Tells : Option Nat → List String → Nat → Prop
  | done {length} : Tells (some length) [] length
  | silent {given line lines length} : (∀ value, ¬ Names line.toList value) →
      Tells given lines length → Tells given (line :: lines) length
  | named {given line lines length value number} : Names line.toList value →
      Denotes value number → Tells (some number) lines length → Tells given (line :: lines) length

/-- A stream that holds the rest of a head, a payload and what follows it. -/
structure Spells (given : Option Nat) (lines : List String) (ending payload rest octets : Bytes) :
    Prop where
  whole : octets = lines.flatMap Bytes.ofString ++ (ending ++ (payload ++ rest))
  headers : ∀ line ∈ lines, IsHeaderLine line
  told : Tells given lines payload.length
  ended : EndsHead ending (payload ++ rest)

theorem readFrom_of_spells {started : Bool} {given : Option Nat} {lines : List String}
    {ending payload rest octets : Bytes} (spells : Spells given lines ending payload rest octets)
    (small : payload.length ≤ maxPayload) :
    readFrom .closed started given octets = .frame payload rest := by
  obtain ⟨whole, headers, told, ended⟩ := spells
  generalize shown : payload.length = length at told
  induction told generalizing started octets with
  | done =>
      obtain ⟨line, found, empty⟩ := ended.exists_line
      rw [whole, List.flatMap_nil, List.nil_append, readFrom_of_empty found empty]
      exact readPayload_eq_frame_iff.mpr ⟨small, shown, rfl⟩
  | @silent given line lines length unnamed told ih =>
      have header := headers line (by simp)
      have found := header.nextLine_append (lines.flatMap Bytes.ofString ++
        (ending ++ (payload ++ rest)))
      have nothing : lengthValue? (lineContent line) = none := by
        rw [lengthValue?_lineContent, Option.eq_none_iff_forall_not_mem]
        intro value told
        exact unnamed value (lengthValue?_eq_some_iff.mp told)
      rw [whole, List.flatMap_cons, List.append_assoc,
        readFrom_of_other found header.lineContent_ne_nil nothing]
      exact ih rfl (fun other member => headers other (List.mem_cons_of_mem line member)) shown
  | @named given line lines length value number names denotes told ih =>
      have header := headers line (by simp)
      have found := header.nextLine_append (lines.flatMap Bytes.ofString ++
        (ending ++ (payload ++ rest)))
      have value? : lengthValue? (lineContent line) = some value := by
        rw [lengthValue?_lineContent]
        exact lengthValue?_eq_some_iff.mpr names
      rw [whole, List.flatMap_cons, List.append_assoc,
        readFrom_of_length found header.lineContent_ne_nil value?
          (length?_eq_some_iff.mpr denotes)]
      exact ih rfl (fun other member => headers other (List.mem_cons_of_mem line member)) shown

theorem Spells.octets_ne_nil {given : Option Nat} {lines : List String}
    {ending payload rest octets : Bytes} (spells : Spells given lines ending payload rest octets) :
    octets ≠ [] := by
  intro nothing
  have whole := spells.whole
  obtain ⟨count, closed | ⟨positive, plain, _⟩⟩ := spells.ended.spelled
  · rw [nothing, closed] at whole
    simp at whole
  · have counted := congrArg List.length whole
    rw [nothing, plain] at counted
    simp only [List.length_append, List.length_replicate, List.length_nil] at counted
    omega

theorem Spells.cons {given told : Option Nat} {lines : List String}
    {ending payload rest octets left : Bytes} {line : String}
    (spells : Spells told lines ending payload rest left)
    (found : nextLine .closed octets = .line line left) (occupied : lineContent line ≠ [])
    (first : Tells told lines payload.length → Tells given (line :: lines) payload.length) :
    Spells given (line :: lines) ending payload rest octets := by
  obtain ⟨split, isLine⟩ := nextLine_eq_line_iff.mp found
  constructor
  · rw [split, List.flatMap_cons, List.append_assoc, ← spells.whole]
  · intro other member
    rcases List.mem_cons.mp member with same | later
    · rw [same]
      exact isLine.isHeaderLine occupied spells.octets_ne_nil
    · exact spells.headers other later
  · exact first spells.told
  · exact spells.ended

theorem spells_of_readFrom {started : Bool} {given : Option Nat} {octets payload rest : Bytes}
    (found : readFrom .closed started given octets = .frame payload rest) :
    payload.length ≤ maxPayload ∧ ∃ lines ending, Spells given lines ending payload rest octets := by
  fun_induction readFrom .closed started given octets with
  | case1 => contradiction
  | case2 => contradiction
  | case3 => contradiction
  | case4 => contradiction
  | case5 started octets text left next line blank length =>
      obtain ⟨small, same, whole⟩ := readPayload_eq_frame_iff.mp found
      obtain ⟨split, isLine⟩ := nextLine_eq_line_iff.mp next
      have ended := isLine.endsHead (List.isEmpty_iff.mp blank)
      rw [whole] at split ended
      refine ⟨small, [], Bytes.ofString text, ?_⟩
      exact ⟨split, by simp, same ▸ Tells.done, ended⟩
  | case6 started given octets text left next line occupied silent ih =>
      obtain ⟨small, lines, ending, spells⟩ := ih found
      refine ⟨small, text :: lines, ending, spells.cons next (by simpa using occupied) ?_⟩
      apply Tells.silent
      intro value names
      rw [lengthValue?_lineContent, lengthValue?_eq_some_iff.mpr names] at silent
      contradiction
  | case7 => contradiction
  | case8 started given octets text left next line occupied value told length fits ih =>
      obtain ⟨small, lines, ending, spells⟩ := ih found
      refine ⟨small, text :: lines, ending, spells.cons next (by simpa using occupied) ?_⟩
      rw [lengthValue?_lineContent] at told
      exact Tells.named (lengthValue?_eq_some_iff.mp told) (length?_eq_some_iff.mp fits)

def LastTells (lines : List String) (length : Nat) : Prop :=
  ∃ earlier line later value, lines = earlier ++ line :: later ∧ Names line.toList value ∧
    Denotes value length ∧ ∀ other ∈ later, ∀ value, ¬ Names other.toList value

theorem lastTells_cons_iff {line : String} {lines : List String} {length : Nat} :
    LastTells (line :: lines) length ↔ LastTells lines length ∨
      (∃ value, Names line.toList value ∧ Denotes value length) ∧
        ∀ other ∈ lines, ∀ value, ¬ Names other.toList value := by
  constructor
  · rintro ⟨earlier, one, later, value, split, names, told, silent⟩
    rcases List.cons_eq_append_iff.mp split with ⟨_, here⟩ | ⟨earlier, _, beyond⟩
    · rw [List.cons.injEq] at here
      obtain ⟨sameLine, sameLater⟩ := here
      exact Or.inr ⟨⟨value, sameLine ▸ names, told⟩, sameLater ▸ silent⟩
    · exact Or.inl ⟨earlier, one, later, value, beyond, names, told, silent⟩
  · rintro (⟨earlier, one, later, value, split, told⟩ | ⟨⟨value, names, told⟩, silent⟩)
    · exact ⟨line :: earlier, one, later, value, by rw [split, List.cons_append], told⟩
    · exact ⟨[], line, lines, value, rfl, names, told, silent⟩

theorem not_lastTells_nil (length : Nat) : ¬ LastTells [] length := by
  rintro ⟨earlier, line, later, _, impossible, _⟩
  simp at impossible

theorem tells_iff {given : Option Nat} {lines : List String} {length : Nat} :
    Tells given lines length ↔
      (∀ line ∈ lines, ∀ value, Names line.toList value → ∃ number, Denotes value number) ∧
        (LastTells lines length ∨
          given = some length ∧ ∀ line ∈ lines, ∀ value, ¬ Names line.toList value) := by
  constructor
  · intro tells
    induction tells with
    | done => exact ⟨by simp, Or.inr ⟨rfl, by simp⟩⟩
    | silent unnamed tells ih =>
        obtain ⟨readable, found⟩ := ih
        constructor
        · intro other member value names
          rcases List.mem_cons.mp member with same | later
          · exact absurd (same ▸ names) (unnamed value)
          · exact readable other later value names
        · rcases found with last | ⟨same, silent⟩
          · exact Or.inl (lastTells_cons_iff.mpr (Or.inl last))
          · exact Or.inr ⟨same, List.forall_mem_cons.mpr ⟨unnamed, silent⟩⟩
    | named names denotes tells ih =>
        obtain ⟨readable, found⟩ := ih
        constructor
        · intro other member otherValue otherNames
          rcases List.mem_cons.mp member with same | later
          · rw [same] at otherNames
            rw [otherNames.unique names]
            exact ⟨_, denotes⟩
          · exact readable other later otherValue otherNames
        · left
          rw [lastTells_cons_iff]
          rcases found with last | ⟨same, silent⟩
          · exact Or.inl last
          · rw [Option.some.injEq] at same
            exact Or.inr ⟨⟨_, names, same ▸ denotes⟩, silent⟩
  · rintro ⟨readable, found⟩
    induction lines generalizing given with
    | nil =>
        rcases found with last | ⟨same, _⟩
        · exact absurd last (not_lastTells_nil length)
        · rw [same]
          exact Tells.done
    | cons line lines ih =>
        have others : ∀ other ∈ lines, ∀ value, Names other.toList value →
            ∃ number, Denotes value number :=
          fun other member => readable other (List.mem_cons_of_mem line member)
        rw [lastTells_cons_iff, List.forall_mem_cons] at found
        by_cases named : ∃ value, Names line.toList value
        · obtain ⟨value, names⟩ := named
          obtain ⟨number, denotes⟩ := readable line (by simp) value names
          refine Tells.named names denotes (ih others ?_)
          rcases found with (last | ⟨⟨other, otherNames, told⟩, silent⟩) | ⟨_, unnamed, _⟩
          · exact Or.inl last
          · rw [otherNames.unique names] at told
            exact Or.inr ⟨congrArg some (denotes.unique told), silent⟩
          · exact absurd names (unnamed value)
        · have unnamed : ∀ value, ¬ Names line.toList value :=
            fun value names => named ⟨value, names⟩
          refine Tells.silent unnamed (ih others ?_)
          rcases found with (last | ⟨⟨value, names, _⟩, _⟩) | ⟨same, _, silent⟩
          · exact Or.inl last
          · exact absurd names (unnamed value)
          · exact Or.inr ⟨same, silent⟩

/--
A payload is read from a stream that ends somewhere if and only if the stream holds a head that
tells the length of the payload, and the payload.
-/
theorem read_eq_frame_iff (octets payload rest : Bytes) :
    read .closed octets = .frame payload rest ↔
      payload.length ≤ maxPayload ∧ ∃ lines ending,
        octets = lines.flatMap Bytes.ofString ++ (ending ++ (payload ++ rest)) ∧
        (∀ line ∈ lines, IsHeaderLine line) ∧ EndsHead ending (payload ++ rest) ∧
        (∀ line ∈ lines, ∀ value, Names line.toList value → ∃ number, Denotes value number) ∧
        LastTells lines payload.length := by
  constructor
  · intro found
    obtain ⟨small, lines, ending, spells⟩ := spells_of_readFrom found
    obtain ⟨readable, last | ⟨given, _⟩⟩ := tells_iff.mp spells.told
    · exact ⟨small, lines, ending, spells.whole, spells.headers, spells.ended, readable, last⟩
    · contradiction
  · rintro ⟨small, lines, ending, whole, headers, ended, readable, last⟩
    exact readFrom_of_spells ⟨whole, headers, tells_iff.mpr ⟨readable, Or.inl last⟩, ended⟩ small

end Debuggee.Frame
