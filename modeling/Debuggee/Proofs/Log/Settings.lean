import Debuggee.Proofs.Log.Table
import Debuggee.Proofs.Text.Trim

/-!
The filter of a process. The level setting and the environment each give a list of directives; a list
that cannot be read is left out as a whole, and leaves the other one as it is. The directives of the
environment come last, so they win.
-/

namespace Debuggee.Log

section Normalize

variable {setting : String}

def lower (text : String) : String :=
  String.ofList (text.toList.map Char.toLower)

def levelOfWord? : String → Option Level
  | "trace" => some .trace
  | "debug" => some .debug
  | "info" => some .info
  | "warn" => some .warn
  | "warning" => some .warn
  | "error" => some .error
  | _ => none

/-- A setting loses the white space around it, and a word for a level its case; nothing else goes. -/
theorem normalizeLevel_eq (setting : String) :
    normalizeLevel setting =
      if Text.trim setting = "" then "info"
      else ((levelOfWord? (lower (Text.trim setting))).map Level.name).getD (Text.trim setting) := by
  have lowered : String.ofList ((Text.trim setting).toList.map Char.toLower) =
    lower (Text.trim setting) := rfl
  simp only [normalizeLevel, lowered, String.isEmpty_iff]
  generalize lower (Text.trim setting) = word
  cases named : levelOfWord? word with
  | none =>
      revert named
      fun_cases levelOfWord? word <;> simp_all
  | some level =>
      revert named
      fun_cases levelOfWord? word <;> rintro ⟨⟩ <;> simp [Level.name]

theorem trim_trim (text : String) : Text.trim (Text.trim text) = Text.trim text := by
  rw [Text.trim, Text.trim, String.toList_ofList, Text.trimList_trimList]

theorem normalizeLevel_surrounded {before after : String}
    (beforeBlank : ∀ symbol ∈ before.toList, Text.isBlank symbol = true)
    (afterBlank : ∀ symbol ∈ after.toList, Text.isBlank symbol = true) :
    normalizeLevel (before ++ setting ++ after) = normalizeLevel setting := by
  have same : Text.trim (before ++ setting ++ after) = Text.trim setting := by
    rw [Text.trim, String.toList_append, String.toList_append,
      Text.trimList_surrounded beforeBlank afterBlank, Text.trim]
  rw [normalizeLevel_eq, normalizeLevel_eq, same]

theorem normalizeLevel_name (level : Level) : normalizeLevel level.name = level.name := by
  cases level <;> decide +kernel

theorem normalizeLevel_word {level : Level}
    (named : levelOfWord? (lower (Text.trim setting)) = some level) :
    normalizeLevel setting = level.name := by
  have filled : Text.trim setting ≠ "" := by
    intro nothing
    rw [nothing] at named
    cases named
  rw [normalizeLevel_eq, if_neg filled, named]
  rfl

theorem normalizeLevel_normalizeLevel (setting : String) :
    normalizeLevel (normalizeLevel setting) = normalizeLevel setting := by
  rw [normalizeLevel_eq setting]
  by_cases nothing : Text.trim setting = ""
  · rw [if_pos nothing]
    exact normalizeLevel_name .info
  · rw [if_neg nothing]
    cases found : levelOfWord? (lower (Text.trim setting)) with
    | none => simp [normalizeLevel_eq, trim_trim, nothing, found]
    | some level => exact normalizeLevel_name level

end Normalize

section Lists

theorem splitAtCommas_eq (symbols : List Char) : splitAtCommas symbols = symbols.splitOn ',' := by
  induction symbols with
  | nil => rfl
  | cons symbol symbols ih =>
      rw [splitAtCommas, List.foldr_cons, ← splitAtCommas, ih]
      simp only [List.splitOn_eq_splitOnP, List.splitOnP_cons_eq_if_modifyHead]
      have parts := List.splitOnP_ne_nil (· == ',') symbols
      cases split : symbols.splitOnP (· == ',') with
      | nil => exact absurd split parts
      | cons part parts => simp

theorem mapM_eq_none_iff {α β : Type} {read : α → Option β} {parts : List α} :
    parts.mapM read = none ↔ ∃ part ∈ parts, read part = none := by
  induction parts with
  | nil => simp
  | cons part parts ih =>
      rw [List.mapM_cons, List.exists_mem_cons_iff, ← ih]
      cases read part with
      | none => simp
      | some value => cases parts.mapM read <;> simp

/-- A list of directives is read as a whole or not at all. -/
theorem directives?_eq_none_iff {list : String} :
    directives? list = none ↔
      ∃ part ∈ list.toList.splitOn ',', part ≠ [] ∧ Directive.ofText? part = none := by
  simp [directives?, splitAtCommas_eq, mapM_eq_none_iff, and_assoc]

/-- The lists of two sources, joined, are read as each of them is by itself. -/
theorem directives?_joined (first later : String) :
    directives? (first ++ "," ++ later) =
      (directives? first).bind fun own => (directives? later).map (own ++ ·) := by
  have split : (first ++ "," ++ later).toList = first.toList ++ ',' :: later.toList := by
    simp
  simp only [directives?, splitAtCommas_eq, split, List.splitOn_eq_splitOnP]
  rw [List.splitOnP_append_cons _ _ (by simp), List.filter_append, List.mapM_append]
  simp [Option.map_eq_bind]

end Lists

def own? (setting : String) : Option (List Directive) :=
  directives? (normalizeLevel setting)

def wanted? (environment : Option String) : Option (List Directive) := do
  let list ← environment
  if Text.trim list = "" then none else directives? (Text.trim list)

/-- The directives of the sources that could be read; info if there is none. -/
def chosen : Option (List Directive) → Option (List Directive) → List Directive
  | none, none => [{ level := .info }]
  | own, wanted => own.getD [] ++ wanted.getD []

theorem ofLevel_eq (setting : String) :
    Filter.ofLevel setting = .ofDirectives (chosen (own? setting) none) := by
  rw [Filter.ofLevel, own?]
  cases directives? (normalizeLevel setting) with
  | none => rfl
  | some own => simp [chosen]

theorem ofSettings_eq (setting : String) (environment : Option String) :
    Filter.ofSettings setting environment =
      .ofDirectives (chosen (own? setting) (wanted? environment)) := by
  cases environment with
  | none => exact ofLevel_eq setting
  | some list =>
      by_cases nothing : Text.trim list = ""
      · simp [Filter.ofSettings, wanted?, nothing, ofLevel_eq]
      · have joined := directives?_joined (normalizeLevel setting) (Text.trim list)
        rw [← own?] at joined
        simp only [Filter.ofSettings, wanted?, Option.map_some, String.isEmpty_iff, nothing, if_false,
          joined, ofLevel_eq, Option.bind_eq_bind, Option.bind_some]
        cases own? setting <;> cases directives? (Text.trim list) <;> simp [chosen]

example : Filter.ofSettings " WARNING" (some "ansibug,=") = .ofDirectives [{ level := .warn }] := by
  decide +kernel

section Precedence

variable {own wanted : List Directive} {about directive : Directive}

theorem lastAbout_chosen_of_own {others : Option (List Directive)} :
    lastAbout about (chosen (some own) others) =
      (lastAbout about (others.getD [])).or (lastAbout about own) := by
  cases others <;> exact lastAbout_append about own _

theorem lastAbout_chosen_of_wanted {others : Option (List Directive)}
    (last : lastAbout about wanted = some directive) :
    lastAbout about (chosen others (some wanted)) = some directive := by
  have joined : chosen others (some wanted) = others.getD [] ++ wanted := by cases others <;> rfl
  rw [joined, lastAbout_append, last, Option.some_or]

end Precedence

/-- What a level setting and the environment make of the filter of a process. -/
structure Merged (setting : String) (environment : Option String) : Prop where
  built : Filter.ofSettings setting environment =
    .ofDirectives (chosen (own? setting) (wanted? environment))
  refused : ∀ list, directives? list = none ↔
    ∃ part ∈ list.toList.splitOn ',', part ≠ [] ∧ Directive.ofText? part = none
  replaced : ∀ table about, Table.takes table about = true →
    (Filter.ofSettings setting environment).held? table about =
      lastAbout about (chosen (own? setting) (wanted? environment))
  taken : ∀ directive, ∃ table, Table.takes table directive = true
  /-- A directive of the setting stays unless the environment has one about the same things. -/
  kept : ∀ own, own? setting = some own → ∀ directive ∈ own, ∀ table,
    Table.takes table directive = true →
      (Filter.ofSettings setting environment).held? table directive =
        (lastAbout directive ((wanted? environment).getD [])).or (lastAbout directive own)
  /-- A directive of the environment gives way to later ones of the environment only. -/
  wins : ∀ wanted, wanted? environment = some wanted → ∀ directive ∈ wanted, ∀ table,
    Table.takes table directive = true →
      ∃ last, lastAbout directive wanted = some last ∧
        (Filter.ofSettings setting environment).held? table directive = some last
  /-- What is logged for a target that the environment names passes by the level given there. -/
  decides : ∀ wanted, wanted? environment = some wanted → ∀ event directive,
    lastAbout { target := some event.target } wanted = some directive →
    (∀ other ∈ chosen (own? setting) (some wanted),
      other.target = some event.target → other.field = none) →
    (Filter.ofSettings setting environment).enabled event = decide (event.level ≤ directive.level)
  normal : normalizeLevel (normalizeLevel setting) = normalizeLevel setting
  surrounded : ∀ before after : String, (∀ symbol ∈ before.toList, Text.isBlank symbol = true) →
    (∀ symbol ∈ after.toList, Text.isBlank symbol = true) →
    normalizeLevel (before ++ setting ++ after) = normalizeLevel setting
  cased : ∀ level, levelOfWord? (lower (Text.trim setting)) = some level →
    normalizeLevel setting = level.name

theorem merged_of_sources (setting : String) (environment : Option String) :
    Merged setting environment := by
  have built := ofSettings_eq setting environment
  have replaced : ∀ table about, Table.takes table about = true →
      (Filter.ofSettings setting environment).held? table about =
        lastAbout about (chosen (own? setting) (wanted? environment)) := by
    intro table about taken
    rw [built, Filter.held?_ofDirectives taken]
  refine
    { built, replaced
      refused := fun list => directives?_eq_none_iff
      taken := Table.exists_takes
      kept := ?_
      wins := ?_
      decides := ?_
      normal := normalizeLevel_normalizeLevel setting
      surrounded := fun before after => normalizeLevel_surrounded
      cased := fun level => normalizeLevel_word }
  · intro own read directive member table taken
    rw [replaced table directive taken, read, lastAbout_chosen_of_own]
  · intro wanted read directive member table taken
    obtain ⟨last, found⟩ := exists_lastAbout member
    refine ⟨last, found, ?_⟩
    rw [replaced table directive taken, read, lastAbout_chosen_of_wanted found]
  · intro wanted read event directive found alone
    rw [built, read]
    exact Filter.enabled_ofDirectives (lastAbout_chosen_of_wanted found) alone

theorem merged_of_sources_named_twice :
    (Filter.ofSettings "ansibug=debug,warn" (some " ansibug=trace ")).held? .statics
        { target := "ansibug" } = some { target := "ansibug", level := .trace } ∧
      (Filter.ofSettings "ansibug=debug,warn" (some " ansibug=trace ")).enabled
        { level := .trace, target := "ansibug", message := "" } = true := by
  have merged := merged_of_sources "ansibug=debug,warn" (some " ansibug=trace ")
  have read : wanted? (some " ansibug=trace ") =
      some [{ target := "ansibug", level := .trace }] := by decide +kernel
  constructor
  · obtain ⟨last, found, held⟩ := merged.wins _ read { target := "ansibug", level := .trace }
      (List.mem_singleton_self _) .statics (by decide)
    rw [held, ← found]
    decide +kernel
  · rw [merged.decides _ read _ { target := "ansibug", level := .trace } (by decide +kernel)
      (by decide +kernel)]
    decide

end Debuggee.Log
