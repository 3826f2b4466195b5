import Debuggee.PathMapping
import Mathlib

/-!
Paths there and back. The first pair whose root begins a path translates it; the way back finds the
same pair if no root on the far side begins the root of another pair.
-/

namespace Debuggee.DebugConfiguration

section Lists

variable {roots : List (List Char × List Char)} {path : List Char}

theorem translateList_of_none (unmapped : ∀ root ∈ roots, ¬root.1 <+: path) :
    translateList roots path = path := by
  induction roots with
  | nil => rfl
  | cons root roots ih =>
      have here := unmapped root (by simp)
      rw [← List.isPrefixOf_iff_prefix, Bool.not_eq_true] at here
      simp only [translateList, here, Bool.false_eq_true, if_false]
      exact ih fun other member => unmapped other (List.mem_cons_of_mem root member)

theorem exists_translateList (mapped : ∃ root ∈ roots, root.1 <+: path) :
    ∃ root ∈ roots, ∃ rest, path = root.1 ++ rest ∧
      translateList roots path = root.2 ++ rest := by
  induction roots with
  | nil => simp at mapped
  | cons root roots ih =>
      by_cases here : root.1 <+: path
      · obtain ⟨rest, whole⟩ := here
        refine ⟨root, by simp, rest, whole.symm, ?_⟩
        rw [← whole]
        simp [translateList]
      · have later : ∃ other ∈ roots, other.1 <+: path := by
          obtain ⟨other, member, begins⟩ := mapped
          rcases List.mem_cons.mp member with same | later
          · exact absurd (same ▸ begins) here
          · exact ⟨other, later, begins⟩
        obtain ⟨other, member, rest, whole, translated⟩ := ih later
        rw [← List.isPrefixOf_iff_prefix, Bool.not_eq_true] at here
        refine ⟨other, List.mem_cons_of_mem root member, rest, whole, ?_⟩
        simpa only [translateList, here, Bool.false_eq_true, if_false] using translated

theorem translateList_of_only {root : List Char × List Char} (member : root ∈ roots)
    {rest : List Char} (only : ∀ other ∈ roots, other.1 <+: root.1 ++ rest → other = root) :
    translateList roots (root.1 ++ rest) = root.2 ++ rest := by
  obtain ⟨other, otherMember, otherRest, whole, translated⟩ :=
    exists_translateList ⟨root, member, List.prefix_append root.1 rest⟩
  have same := only other otherMember ⟨otherRest, whole.symm⟩
  subst same
  rw [translated, List.append_cancel_left whole]

def Apart (roots : List (List Char × List Char)) : Prop :=
  ∀ root ∈ roots, ∀ other ∈ roots, root.2 <+: other.2 → root = other

theorem Apart.translateList_back (apart : Apart roots)
    (mapped : ∃ root ∈ roots, root.1 <+: path) :
    translateList (roots.map Prod.swap) (translateList roots path) = path := by
  obtain ⟨root, member, rest, whole, translated⟩ := exists_translateList mapped
  have only : ∀ other ∈ roots.map Prod.swap,
      other.1 <+: root.swap.1 ++ rest → other = root.swap := by
    intro other otherMember begins
    obtain ⟨pair, pairMember, rfl⟩ := List.mem_map.mp otherMember
    rcases List.prefix_or_prefix_of_prefix begins (List.prefix_append root.2 rest) with
      below | above
    · rw [apart pair pairMember root member below]
    · rw [apart root member pair pairMember above]
  have back := translateList_of_only (List.mem_map_of_mem member) only
  rw [translated, whole]
  exact back

end Lists

def Begins (root path : String) : Prop :=
  root.toList <+: path.toList
  deriving Decidable

/--
No root of this side begins the root of another pair on the same side. A pair that is given twice
counts as one.
-/
def PrefixFree (root : PathMapping → String) (configuration : DebugConfiguration) : Prop :=
  ∀ pair ∈ configuration.pathMappings, ∀ other ∈ configuration.pathMappings,
    Begins (root pair) (root other) → pair = other
  deriving Decidable

def pairs (near far : PathMapping → String) (configuration : DebugConfiguration) :
    List (List Char × List Char) :=
  configuration.pathMappings.map fun pair => ((near pair).toList, (far pair).toList)

section Paths

variable (configuration : DebugConfiguration) (path : String)

theorem toRuntimePath_eq : configuration.toRuntimePath path =
    String.ofList (translateList (configuration.pairs (·.localRoot) (·.remoteRoot))
      path.toList) := by
  simp [toRuntimePath, translate, pairs, Function.comp_def]

theorem toClientPath_eq : configuration.toClientPath path =
    String.ofList (translateList (configuration.pairs (·.remoteRoot) (·.localRoot))
      path.toList) := by
  simp [toClientPath, translate, pairs, Function.comp_def]

end Paths

section Pairs

variable {configuration : DebugConfiguration} {near far : PathMapping → String} {path : String}

theorem map_swap_pairs :
    (configuration.pairs near far).map Prod.swap = configuration.pairs far near := by
  simp [pairs, Function.comp_def]

theorem begins_pairs (mapped : ∃ pair ∈ configuration.pathMappings, Begins (near pair) path) :
    ∃ root ∈ configuration.pairs near far, root.1 <+: path.toList := by
  obtain ⟨pair, member, begins⟩ := mapped
  exact ⟨_, List.mem_map_of_mem member, begins⟩

theorem translateList_pairs_of_none
    (unmapped : ∀ pair ∈ configuration.pathMappings, ¬Begins (near pair) path) :
    translateList (configuration.pairs near far) path.toList = path.toList := by
  apply translateList_of_none
  intro root member
  obtain ⟨pair, pairMember, rfl⟩ := List.mem_map.mp member
  exact unmapped pair pairMember

theorem PrefixFree.apart (free : PrefixFree far configuration) :
    Apart (configuration.pairs near far) := by
  intro root member other otherMember begins
  obtain ⟨pair, pairMember, rfl⟩ := List.mem_map.mp member
  obtain ⟨otherPair, otherPairMember, rfl⟩ := List.mem_map.mp otherMember
  rw [free pair pairMember otherPair otherPairMember begins]

theorem PrefixFree.pairs_back (free : PrefixFree far configuration)
    (mapped : ∃ pair ∈ configuration.pathMappings, Begins (near pair) path) :
    translateList (configuration.pairs far near)
      (translateList (configuration.pairs near far) path.toList) = path.toList := by
  rw [← map_swap_pairs]
  exact free.apart.translateList_back (begins_pairs mapped)

end Pairs

/--
A path of the client comes back from the run as it was, however the roots of the client overlap, as
long as the roots of the run do not; different such paths stay different. The same holds from the
run to the client and back. A path that no root begins stays as it is on both ways.
-/
theorem paths_round_trip (configuration : DebugConfiguration) :
    (PrefixFree (·.remoteRoot) configuration →
      (∀ path, (∃ pair ∈ configuration.pathMappings, Begins pair.localRoot path) →
        configuration.toClientPath (configuration.toRuntimePath path) = path) ∧
      ∀ path other, (∃ pair ∈ configuration.pathMappings, Begins pair.localRoot path) →
        (∃ pair ∈ configuration.pathMappings, Begins pair.localRoot other) →
        configuration.toRuntimePath path = configuration.toRuntimePath other → path = other) ∧
    (PrefixFree (·.localRoot) configuration →
      ∀ path, (∃ pair ∈ configuration.pathMappings, Begins pair.remoteRoot path) →
        configuration.toRuntimePath (configuration.toClientPath path) = path) ∧
    ∀ path, (∀ pair ∈ configuration.pathMappings,
        ¬Begins pair.localRoot path ∧ ¬Begins pair.remoteRoot path) →
      configuration.toRuntimePath path = path ∧ configuration.toClientPath path = path := by
  refine ⟨?_, ?_, ?_⟩
  · intro free
    have back : ∀ path, (∃ pair ∈ configuration.pathMappings, Begins pair.localRoot path) →
        configuration.toClientPath (configuration.toRuntimePath path) = path := by
      intro path mapped
      rw [toClientPath_eq, toRuntimePath_eq, String.toList_ofList, free.pairs_back mapped,
        String.ofList_toList]
    refine ⟨back, ?_⟩
    intro path other mapped otherMapped same
    rw [← back path mapped, same, back other otherMapped]
  · intro free path mapped
    rw [toRuntimePath_eq, toClientPath_eq, String.toList_ofList, free.pairs_back mapped,
      String.ofList_toList]
  · intro path unmapped
    rw [toRuntimePath_eq, toClientPath_eq,
      translateList_pairs_of_none fun pair member => (unmapped pair member).1,
      translateList_pairs_of_none fun pair member => (unmapped pair member).2,
      String.ofList_toList]
    exact ⟨rfl, rfl⟩

def nestedRoots : DebugConfiguration where
  pathMappings := [⟨"/home/", "/srv/"⟩, ⟨"/home/dev/", "/opt/dev/"⟩, ⟨"/opt/", "/opt/roles/"⟩]

def mirrored (configuration : DebugConfiguration) : DebugConfiguration where
  pathMappings := configuration.pathMappings.map fun pair => ⟨pair.remoteRoot, pair.localRoot⟩

theorem paths_round_trip_of_nested_roots :
    nestedRoots.toRuntimePath "/home/dev/main.yml" = "/srv/dev/main.yml" ∧
      nestedRoots.toClientPath (nestedRoots.toRuntimePath "/home/dev/main.yml") =
        "/home/dev/main.yml" ∧
      nestedRoots.mirrored.toRuntimePath (nestedRoots.mirrored.toClientPath "/home/dev/main.yml") =
        "/home/dev/main.yml" ∧
      nestedRoots.toRuntimePath "/etc/hosts" = "/etc/hosts" := by
  have free : PrefixFree (·.remoteRoot) nestedRoots := by decide
  have mirroredFree : PrefixFree (·.localRoot) nestedRoots.mirrored := by decide
  have mapped : ∃ pair ∈ nestedRoots.pathMappings, Begins pair.localRoot "/home/dev/main.yml" :=
    ⟨⟨"/home/", "/srv/"⟩, by decide, by decide⟩
  have mirroredMapped : ∃ pair ∈ nestedRoots.mirrored.pathMappings,
      Begins pair.remoteRoot "/home/dev/main.yml" :=
    ⟨⟨"/srv/", "/home/"⟩, by decide, by decide⟩
  exact ⟨by decide, ((paths_round_trip nestedRoots).1 free).1 _ mapped,
    (paths_round_trip nestedRoots.mirrored).2.1 mirroredFree _ mirroredMapped,
    ((paths_round_trip nestedRoots).2.2 "/etc/hosts" (by decide)).1⟩

end Debuggee.DebugConfiguration
