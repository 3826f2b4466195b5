import Debuggee.Proofs.Log.Order

/-!
The two tables of a filter. Each holds the last directive about each of the things it takes, however
the directives came, so what is logged for a target is decided by the last directive that names it.
-/

namespace Debuggee.Log

def lastAbout (about : Directive) (directives : List Directive) : Option Directive :=
  directives.reverse.find? about.isAbout

theorem lastAbout_append (about : Directive) (first later : List Directive) :
    lastAbout about (first ++ later) = (lastAbout about later).or (lastAbout about first) := by
  rw [lastAbout, List.reverse_append, List.find?_append]
  rfl

theorem exists_lastAbout {directive : Directive} {directives : List Directive}
    (member : directive ∈ directives) : ∃ last, lastAbout directive directives = some last := by
  apply Option.isSome_iff_exists.mp
  rw [lastAbout, List.find?_isSome]
  exact ⟨directive, List.mem_reverse.mpr member, Directive.isAbout_self⟩

namespace Directives

theorem find?_foldl_add (about : Directive) (directives : List Directive) (table : Directives) :
    (directives.foldl add table).items.find? about.isAbout =
      (lastAbout about directives).or (table.items.find? about.isAbout) := by
  induction directives generalizing table with
  | nil => rfl
  | cons directive directives ih =>
      have one : lastAbout about [directive] =
          if about.isAbout directive then some directive else none := by
        simp [lastAbout, List.find?_singleton]
      rw [List.foldl_cons, ih, add, find?_insertDirective, ← List.singleton_append,
        lastAbout_append, one, Option.or_assoc]
      by_cases here : about.isAbout directive <;> simp [here]

theorem ordered_foldl_add (directives : List Directive) {table : Directives}
    (ordered : Ordered table.items) : Ordered (directives.foldl add table).items :=
  List.foldlRecOn directives add ordered fun _ ordered _ _ => ordered_insertDirective ordered

end Directives

/-- The table of what may decide alone, and the table of what depends on spans. -/
inductive Table where
  | statics
  | dynamics

def Table.takes : Table → Directive → Bool
  | .statics, directive => !(directive.span.isSome || directive.hasValue)
  | .dynamics, directive => directive.isDynamic

theorem Table.takes_congr {about directive : Directive} (same : about.isAbout directive = true)
    (table : Table) : table.takes directive = table.takes about := by
  obtain ⟨-, span, field, value⟩ := Directive.named_of_isAbout same
  cases table <;> simp only [takes, Directive.isDynamic, span, field, value]

theorem Table.exists_takes (directive : Directive) :
    ∃ table : Table, table.takes directive = true := by
  by_cases dynamic : directive.isDynamic = true
  · exact ⟨.dynamics, dynamic⟩
  · refine ⟨.statics, ?_⟩
    simp only [Directive.isDynamic, Bool.or_eq_true, not_or, Option.not_isSome_iff_eq_none] at dynamic
    simp [takes, Directive.hasValue, dynamic]

namespace Filter

def table (filter : Filter) : Table → Directives
  | .statics => filter.statics
  | .dynamics => filter.dynamics

theorem table_add (filter : Filter) (directive : Directive) (table : Table) :
    (filter.add directive).table table =
      if table.takes directive then (filter.table table).add directive
      else filter.table table := by
  cases table with
  | statics =>
      by_cases spanned : (directive.span.isSome || directive.hasValue) = true <;>
        simp [Filter.table, add, Table.takes, spanned]
  | dynamics => rfl

theorem table_foldl_add (directives : List Directive) (filter : Filter) (table : Table) :
    (directives.foldl add filter).table table =
      (directives.filter table.takes).foldl Directives.add (filter.table table) := by
  induction directives generalizing filter with
  | nil => rfl
  | cons directive directives ih =>
      rw [List.foldl_cons, ih, table_add]
      by_cases taken : table.takes directive <;> simp [taken]

def held? (filter : Filter) (table : Table) (about : Directive) : Option Directive :=
  (filter.table table).items.find? about.isAbout

section Entries

variable {table : Table} {about : Directive} {directives : List Directive}

theorem held?_eq_lastAbout_filter :
    (ofDirectives directives).held? table about =
      lastAbout about (directives.filter table.takes) := by
  have first : (({} : Filter).table table).items = [] := by cases table <;> rfl
  rw [held?, ofDirectives, table_foldl_add, Directives.find?_foldl_add, first, List.find?_nil,
    Option.or_none]

theorem held?_ofDirectives (taken : table.takes about = true) :
    (ofDirectives directives).held? table about = lastAbout about directives := by
  rw [held?_eq_lastAbout_filter, lastAbout, lastAbout, ← List.filter_reverse, List.find?_filter]
  congr 1
  funext directive
  by_cases same : about.isAbout directive
  · simp [same, Table.takes_congr same, taken]
  · simp [same]

theorem ordered_ofDirectives : Ordered ((ofDirectives directives).table table).items := by
  rw [ofDirectives, table_foldl_add]
  apply Directives.ordered_foldl_add
  cases table <;> exact List.Pairwise.nil

/-- A table holds what it takes and what is the last about its things, and nothing else. -/
theorem mem_table_ofDirectives_iff :
    about ∈ ((ofDirectives directives).table table).items ↔
      table.takes about = true ∧ lastAbout about directives = some about := by
  constructor
  · intro member
    have found := ordered_ofDirectives.find?_isAbout member
    have last := held?_eq_lastAbout_filter.symm.trans found
    have taken : table.takes about = true :=
      (List.mem_filter.mp (List.mem_reverse.mp (List.mem_of_find?_eq_some last))).2
    exact ⟨taken, (held?_ofDirectives taken).symm.trans found⟩
  · rintro ⟨taken, last⟩
    exact List.mem_of_find?_eq_some ((held?_ofDirectives taken).trans last)

end Entries

section Enabled

variable {directives : List Directive} {directive other : Directive} {event : Event}

theorem size_lt_of_isPrefixOf {part whole : String}
    (starts : part.toList.isPrefixOf whole.toList = true) (shorter : part ≠ whole) :
    part.utf8ByteSize < whole.utf8ByteSize := by
  obtain ⟨rest, split⟩ := List.isPrefixOf_iff_prefix.mp starts
  have joined : part ++ String.ofList rest = whole := by
    rw [← String.toList_inj, String.toList_append, String.toList_ofList, split]
  have further : String.ofList rest ≠ "" := by
    rintro nothing
    exact shorter (by rw [← joined, nothing, String.append_empty])
  have size : (String.ofList rest).utf8ByteSize ≠ 0 := mt String.utf8ByteSize_eq_zero_iff.mp further
  rw [← joined, String.utf8ByteSize_append]
  omega

theorem compare_of_applies (target : directive.target = some event.target)
    (applied : applies other event = true) (shorter : other.target ≠ directive.target) :
    other.compare directive = .lt := by
  rw [applies, Bool.and_eq_true] at applied
  have smaller : Ord.compare (other.target.map String.utf8ByteSize)
      (directive.target.map String.utf8ByteSize) = .lt := by
    cases named : other.target with
    | none =>
        rw [target]
        rfl
    | some part =>
        rw [named] at shorter applied
        rw [target] at shorter ⊢
        have size := size_lt_of_isPrefixOf applied.1 (fun same => shorter (congrArg some same))
        exact Nat.compare_eq_lt.mpr size
  rw [Directive.compare, smaller]
  rfl

theorem applies_eq_false (about : Directive.isAbout { target := event.target } directive = true)
    (above : other.compare directive = .gt) (taken : Table.statics.takes other = true)
    (alone : other.target = some event.target → other.field = none) :
    applies other event = false := by
  obtain ⟨target, -, -⟩ := Directive.isAbout_target_iff.mp about
  by_contra applied
  rw [Bool.not_eq_false] at applied
  by_cases named : other.target = some event.target
  · have field := alone named
    have span : other.span = none := by simpa [Table.takes, Directive.hasValue, field] using taken
    have alsoAbout := Directive.isAbout_target_iff.mpr ⟨named, span, field⟩
    rw [Directive.compare_eq_of_isAbout alsoAbout about] at above
    cases above
  · rw [compare_of_applies target applied (target ▸ named)] at above
    cases above

/--
What is logged for a target passes by the level of the last directive for it, unless another one for
the same target asks for a field.
-/
theorem enabled_ofDirectives (last : lastAbout { target := event.target } directives = some directive)
    (alone : ∀ other ∈ directives, other.target = some event.target → other.field = none) :
    (ofDirectives directives).enabled event = decide (event.level ≤ directive.level) := by
  have held : (ofDirectives directives).held? .statics { target := event.target } = some directive :=
    (held?_ofDirectives rfl).trans last
  have about := List.find?_some held
  obtain ⟨target, span, field⟩ := Directive.isAbout_target_iff.mp about
  have found : (ofDirectives directives).statics.items.find? (applies · event) = some directive := by
    obtain ⟨before, after, split⟩ := List.append_of_mem (List.mem_of_find?_eq_some held)
    have ordered : Ordered (before ++ directive :: after) := split ▸ ordered_ofDirectives
    refine List.find?_eq_some_iff_append.mpr ⟨?_, before, after, split, fun other early => ?_⟩
    · simp [applies, target, field]
    · have above := (List.pairwise_append.mp ordered).2.2 other early directive List.mem_cons_self
      have held : other ∈ ((ofDirectives directives).table .statics).items :=
        split ▸ List.mem_append_left _ early
      obtain ⟨taken, otherLast⟩ := mem_table_ofDirectives_iff.mp held
      have member := List.mem_reverse.mp (List.mem_of_find?_eq_some otherLast)
      rw [applies_eq_false about above taken (alone other member)]
      rfl
  rw [enabled, found]

end Enabled

end Filter

end Debuggee.Log
