import Debuggee.Discovery
import Debuggee.Proofs.Layout.ReadBack

/-!
What a directory of discovery files tells. The list holds what each readable discovery file tells,
once, in the order of the process numbers, and nothing else in the directory matters to it. So what
several runs have written is listed as they wrote it, and is gone once their file is removed.
-/

namespace Debuggee

def ProcessInfo.file (info : ProcessInfo) : Bytes × Discovery.Entry :=
  (Bytes.ofString (Discovery.fileName info.pid), .file (toText info))

theorem ProcessInfo.regular : ProcessInfo.layout.IsRegular :=
  ⟨by decide, rfl, by decide⟩

namespace Discovery

variable {entries others : Directory} {entry : Bytes × Entry} {info : ProcessInfo}
variable {infos sorted : List ProcessInfo}

def Tells (entry : Bytes × Entry) (info : ProcessInfo) : Prop :=
  ∃ name content, entry = (Bytes.ofString name, .file content) ∧
    filePrefix.toList <+: name.toList ∧ fromText content = .ok info

def Silent (entries : Directory) : Prop :=
  ∀ entry ∈ entries, ∀ info, ¬Tells entry info

section Tells

theorem isDiscoveryName_iff {name : Bytes} :
    isDiscoveryName name = true ↔
      ∃ text, name = Bytes.ofString text ∧ filePrefix.toList <+: text.toList := by
  unfold isDiscoveryName
  constructor
  · intro named
    split at named
    · rename_i text found
      exact ⟨text, (Bytes.ofString_of_text? found).symm, List.isPrefixOf_iff_prefix.mp named⟩
    · contradiction
  · rintro ⟨text, rfl, named⟩
    rw [Bytes.text?_ofString]
    exact List.isPrefixOf_iff_prefix.mpr named

theorem read_eq_ok_iff {entry : Entry} :
    read (some entry) = .ok info ↔ ∃ content, entry = .file content ∧ fromText content = .ok info := by
  cases entry with
  | directory => simp [read]
  | file content =>
      have same : read (some (.file content)) = (fromText content).mapError .invalid := rfl
      rw [same]
      cases found : (fromText content : Except LayoutError ProcessInfo) <;>
        simp [Except.mapError, found]

theorem info?_eq_some_iff : info? entry = some info ↔ Tells entry info := by
  obtain ⟨name, kind⟩ := entry
  have readable : (read (some kind)).toOption = some info ↔ read (some kind) = .ok info := by
    cases read (some kind) <;> simp [Except.toOption]
  unfold info?
  constructor
  · intro told
    split at told
    · rename_i named
      obtain ⟨text, rfl, begins⟩ := isDiscoveryName_iff.mp named
      obtain ⟨content, rfl, found⟩ := read_eq_ok_iff.mp (readable.mp told)
      exact ⟨text, content, rfl, begins, found⟩
    · contradiction
  · rintro ⟨text, content, same, begins, found⟩
    obtain ⟨rfl, rfl⟩ := Prod.mk.inj same
    rw [if_pos (isDiscoveryName_iff.mpr ⟨text, rfl, begins⟩)]
    exact readable.mpr (read_eq_ok_iff.mpr ⟨content, rfl, found⟩)

theorem info?_eq_none_iff : info? entry = none ↔ ∀ info, ¬Tells entry info := by
  rw [Option.eq_none_iff_forall_ne_some]
  exact forall_congr' fun info => not_congr info?_eq_some_iff

theorem Silent.filterMap (silent : Silent entries) : entries.filterMap info? = [] := by
  rw [List.filterMap_eq_nil_iff]
  exact fun entry belongs => info?_eq_none_iff.mpr (silent entry belongs)

theorem Silent.filter (silent : Silent entries) (keep : Bytes × Entry → Bool) :
    Silent (entries.filter keep) :=
  fun entry belongs => silent entry (List.mem_filter.mp belongs).1

end Tells

section Order

def inOrder (infos : List ProcessInfo) : List ProcessInfo :=
  infos.mergeSort fun left right => left.pid ≤ right.pid

theorem inOrder_perm (infos : List ProcessInfo) : (inOrder infos).Perm infos :=
  List.mergeSort_perm infos _

theorem pairwise_inOrder (infos : List ProcessInfo) :
    (inOrder infos).Pairwise fun left right => left.pid ≤ right.pid := by
  have ordered : (inOrder infos).Pairwise fun left right => decide (left.pid ≤ right.pid) = true := by
    apply List.pairwise_mergeSort
    · intro first second third below above
      exact decide_eq_true (UInt32.le_trans (of_decide_eq_true below) (of_decide_eq_true above))
    · intro first second
      simpa using UInt32.le_total first.pid second.pid
  exact ordered.imp of_decide_eq_true

theorem inOrder_eq (distinct : (infos.map (·.pid)).Nodup) (perm : sorted.Perm infos)
    (ordered : sorted.Pairwise fun left right => left.pid ≤ right.pid) : inOrder infos = sorted := by
  refine List.Perm.eq_of_pairwise ?_ (pairwise_inOrder infos) ordered
    ((inOrder_perm infos).trans perm.symm)
  intro left right leftListed rightListed below above
  exact List.inj_on_of_nodup_map distinct ((inOrder_perm infos).subset leftListed)
    (perm.subset rightListed) (UInt32.le_antisymm below above)

theorem list_eq (entries : Directory) :
    list (some entries) = .ok (inOrder (entries.filterMap info?)) :=
  rfl

end Order

section Files

theorem tells_filter (entries : Directory) :
    List.Forall₂ Tells (entries.filter fun entry => (info? entry).isSome)
      (entries.filterMap info?) := by
  induction entries with
  | nil => exact .nil
  | cons entry entries ih =>
      cases told : info? entry with
      | none => simpa [told] using ih
      | some info => simpa [told] using ⟨info?_eq_some_iff.mp told, ih⟩

theorem exists_files (perm : infos.Perm (entries.filterMap info?)) :
    ∃ files others, entries.Perm (files ++ others) ∧ List.Forall₂ Tells files infos ∧
      Silent others := by
  have reordered : Relation.Comp (List.Forall₂ Tells) List.Perm
      (entries.filter fun entry => (info? entry).isSome) infos :=
    ⟨_, tells_filter entries, perm.symm⟩
  rw [List.forall₂_comp_perm_eq_perm_comp_forall₂] at reordered
  obtain ⟨files, filed, tell⟩ := reordered
  refine ⟨files, entries.filter fun entry => !(info? entry).isSome, ?_, tell, ?_⟩
  · exact (List.filter_append_perm _ entries).symm.trans (filed.append_right _)
  · intro entry belongs
    rw [← info?_eq_none_iff]
    simpa using (List.mem_filter.mp belongs).2

theorem filterMap_of_silent {before after : Directory} (silent : ∀ info, ¬Tells entry info) :
    (before ++ entry :: after).filterMap info? = (before ++ after).filterMap info? := by
  rw [List.filterMap_append, List.filterMap_cons, info?_eq_none_iff.mpr silent,
    List.filterMap_append]

end Files

section Written

theorem tells_file (info : ProcessInfo) : Tells info.file info :=
  ⟨fileName info.pid, toText info, rfl, by
    rw [fileName, String.toList_append]
    exact List.prefix_append _ _, ProcessInfo.regular.readText_render_write info⟩

theorem file_name_inj {info other : ProcessInfo} :
    info.file.1 = other.file.1 ↔ info.pid = other.pid := by
  constructor
  · intro same
    have names : fileName info.pid = fileName other.pid := by
      have texts := congrArg Bytes.text? same
      simpa [ProcessInfo.file] using texts
    have numbers : toString info.pid.toNat = toString other.pid.toNat := by
      rw [fileName, fileName, ← String.toList_inj, String.toList_append, String.toList_append] at names
      exact String.toList_inj.mp (List.append_cancel_left names)
    exact UInt32.toNat_inj.mp (Nat.repr_inj.mp numbers)
  · intro same
    rw [ProcessInfo.file, ProcessInfo.file, same]

theorem names_nodup (distinct : (infos.map (·.pid)).Nodup) :
    (infos.map (·.file.1)).Nodup := by
  rw [List.Nodup, List.pairwise_map] at distinct ⊢
  exact distinct.imp fun differ same => differ (file_name_inj.mp same)

theorem lookup_of_absent {name : Bytes} (absent : (name, Entry.directory) ∉ entries) :
    entries.lookup name ≠ some .directory := by
  intro found
  obtain ⟨before, after, rfl, -⟩ := List.lookup_eq_some_iff.mp found
  simp at absent

theorem write_eq (writable : (info.file.1, Entry.directory) ∉ entries) :
    write (some entries) info = .ok (entries.filter (·.1 ≠ info.file.1) ++ [info.file]) := by
  unfold write
  dsimp only
  split
  · rename_i found
    exact absurd found (lookup_of_absent writable)
  · rfl

theorem remove_eq {name : Bytes} (removable : (name, Entry.directory) ∉ entries) :
    remove entries name = .ok (entries.filter (·.1 ≠ name)) := by
  unfold remove
  split
  · rename_i found
    exact absurd found (lookup_of_absent removable)
  · rfl

def writeAll (entries : Directory) (infos : List ProcessInfo) : Except FileError Directory :=
  infos.foldlM (fun entries info => write (some entries) info) entries

theorem writeAll_eq (distinct : (infos.map (·.pid)).Nodup)
    (writable : ∀ info ∈ infos, (info.file.1, Entry.directory) ∉ entries) :
    writeAll entries infos =
      .ok (entries.filter (·.1 ∉ infos.map (·.file.1)) ++ infos.map (·.file)) := by
  induction infos generalizing entries with
  | nil => simp [writeAll, pure, Except.pure]
  | cons info infos ih =>
      obtain ⟨unlike, _⟩ := List.nodup_cons.mp (names_nodup distinct)
      have stillWritable : ∀ other ∈ infos, (other.file.1, Entry.directory) ∉
          entries.filter (·.1 ≠ info.file.1) ++ [info.file] := by
        intro other listed belongs
        rcases List.mem_append.mp belongs with kept | new
        · exact writable other (List.mem_cons_of_mem _ listed) (List.mem_filter.mp kept).1
        · simp [ProcessInfo.file] at new
      have later := ih (List.nodup_cons.mp distinct).2 stillWritable
      rw [writeAll, List.foldlM_cons, write_eq (writable info List.mem_cons_self)]
      change writeAll _ infos = _
      rw [later, List.filter_append, List.filter_filter,
        List.filter_cons_of_pos (by simpa using unlike)]
      simp [Bool.and_comm]

end Written

section Listing

theorem filterMap_file (infos : List ProcessInfo) :
    (infos.map (·.file)).filterMap info? = infos := by
  have each : info? ∘ (·.file) = some :=
    funext fun info => info?_eq_some_iff.mpr (tells_file info)
  rw [List.filterMap_map, each, List.filterMap_some]

theorem filterMap_written (silent : Silent entries) (infos : List ProcessInfo) :
    (entries ++ infos.map (·.file)).filterMap info? = infos := by
  rw [List.filterMap_append, silent.filterMap, filterMap_file, List.nil_append]

theorem filterMap_removed (silent : Silent entries) (distinct : (infos.map (·.pid)).Nodup)
    (listed : info ∈ infos) :
    ((entries ++ infos.map (·.file)).filter (·.1 ≠ info.file.1)).filterMap info? =
      infos.filter (· ≠ info) := by
  have others : infos.filter ((fun entry => decide (entry.1 ≠ info.file.1)) ∘ (·.file)) =
      infos.filter (· ≠ info) := by
    apply List.filter_congr
    intro other present
    rw [Function.comp_apply, decide_eq_decide, not_iff_not, file_name_inj]
    exact ⟨fun same => List.inj_on_of_nodup_map distinct present listed same, congrArg _⟩
  rw [List.filter_append, List.filter_map, others, filterMap_written (silent.filter _)]

theorem inOrder_filter (distinct : (infos.map (·.pid)).Nodup) (keep : ProcessInfo → Bool) :
    inOrder (infos.filter keep) = (inOrder infos).filter keep := by
  refine inOrder_eq (distinct.sublist (List.filter_sublist.map _)) ?_ ?_
  · exact (inOrder_perm infos).filter keep
  · exact (pairwise_inOrder infos).filter keep

theorem inOrder_strict (distinct : (infos.map (·.pid)).Nodup) :
    (inOrder infos).Pairwise fun left right => left.pid < right.pid := by
  have apart : ((inOrder infos).map (·.pid)).Nodup :=
    ((inOrder_perm infos).map _).nodup_iff.mpr distinct
  rw [List.Nodup, List.pairwise_map] at apart
  exact ((pairwise_inOrder infos).and apart).imp fun both =>
    UInt32.lt_of_le_of_ne both.1 both.2

/--
The list holds, in the order of the process numbers, what the discovery files of a directory tell:
one item for each file that tells something, and no other entry has a part in it. If no number is
told twice it does not matter in which order the entries come. What runs with numbers of their own
have written, into a directory where no other file tells anything, is listed as they wrote it, and
without one of them once its file is removed.
-/
theorem listing (entries : Directory) :
    (∃ infos files others, list (some entries) = .ok infos ∧
      infos.Pairwise (fun left right => left.pid ≤ right.pid) ∧
      entries.Perm (files ++ others) ∧ List.Forall₂ Tells files infos ∧ Silent others) ∧
    (∀ before entry after, entries = before ++ entry :: after → (∀ info, ¬Tells entry info) →
      list (some entries) = list (some (before ++ after))) ∧
    (∀ others infos, list (some entries) = .ok infos → (infos.map (·.pid)).Nodup →
      entries.Perm others → list (some others) = .ok infos) ∧
    ∀ written : List ProcessInfo, (written.map (·.pid)).Nodup →
      (∀ entry ∈ entries, ∀ info, Tells entry info → entry.1 ∈ written.map (·.file.1)) →
      (∀ info ∈ written, (info.file.1, Entry.directory) ∉ entries) →
      ∃ after infos, writeAll entries written = .ok after ∧ list (some after) = .ok infos ∧
        infos.Perm written ∧ infos.Pairwise (fun left right => left.pid < right.pid) ∧
        ∀ info ∈ written, ∃ rest, remove after info.file.1 = .ok rest ∧
          list (some rest) = .ok (infos.filter (· ≠ info)) := by
  refine ⟨?_, ?_, ?_, ?_⟩
  · obtain ⟨files, others, split, tell, silent⟩ := exists_files (inOrder_perm _)
    exact ⟨_, files, others, list_eq entries, pairwise_inOrder _, split, tell, silent⟩
  · rintro before entry after rfl silent
    rw [list_eq, list_eq, filterMap_of_silent silent]
  · intro others infos listed distinct perm
    rw [list_eq, Except.ok.injEq] at listed
    have told : infos.Perm (others.filterMap info?) := by
      rw [← listed]
      exact (inOrder_perm _).trans (perm.filterMap info?)
    rw [list_eq, inOrder_eq ((told.map _).nodup_iff.mp distinct) told (listed ▸ pairwise_inOrder _)]
  · intro written distinct covered writable
    have silent : Silent (entries.filter (·.1 ∉ written.map (·.file.1))) := by
      intro entry belongs info tells
      obtain ⟨present, unnamed⟩ := List.mem_filter.mp belongs
      exact of_decide_eq_true unnamed (covered entry present info tells)
    refine ⟨_, inOrder written, writeAll_eq distinct writable, ?_, inOrder_perm written,
      inOrder_strict distinct, ?_⟩
    · rw [list_eq, filterMap_written silent]
    · intro info listed
      refine ⟨_, remove_eq ?_, ?_⟩
      · intro belongs
        rcases List.mem_append.mp belongs with kept | new
        · exact writable info listed (List.mem_filter.mp kept).1
        · simp [ProcessInfo.file] at new
      · rw [list_eq, filterMap_removed silent distinct listed, inOrder_filter distinct]

def crowded : Directory :=
  [(Bytes.ofString "ANSIBUG-garbage", .file (Bytes.ofString "not json")),
    (Bytes.ofString "logs", .directory),
    (Bytes.ofString "ANSIBUG-10", .file (Bytes.ofString "\x7b\x7d")),
    ([0xFF], .file []),
    (Bytes.ofString "unrelated.txt", .file (Bytes.ofString "\x7b\x7d"))]

def waiting : List ProcessInfo :=
  [⟨30, "::1", 6789, true, false, some "/srv/\"site\".yml"⟩,
    ⟨10, "", 0, false, true, none⟩]

theorem listing_of_crowded :
    ∃ after, writeAll crowded waiting = .ok after ∧
      list (some after) = .ok waiting.reverse ∧ ∃ rest,
        remove after (Bytes.ofString "ANSIBUG-30") = .ok rest ∧
          list (some rest) = .ok [⟨10, "", 0, false, true, none⟩] := by
  have silent : Silent crowded := by
    intro entry belongs
    rw [← info?_eq_none_iff]
    revert entry
    decide +kernel
  obtain ⟨after, infos, written, listed, perm, ordered, removed⟩ := (listing crowded).2.2.2 waiting
    (by decide) (fun entry belongs info tells => absurd tells (silent entry belongs info))
    (by decide +kernel)
  have same : infos = waiting.reverse := by
    refine List.Perm.eq_of_pairwise ?_ ordered (by decide) (perm.trans (by decide))
    intro left right _ _ below above
    exact absurd (UInt32.lt_trans below above) (UInt32.lt_irrefl _)
  subst same
  obtain ⟨rest, gone, left⟩ := removed ⟨30, "::1", 6789, true, false, some "/srv/\"site\".yml"⟩
    (by decide)
  exact ⟨after, written, listed, rest, gone, left⟩

end Listing

end Discovery

end Debuggee
