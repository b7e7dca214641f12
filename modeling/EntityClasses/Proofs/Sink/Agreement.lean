import EntityClasses.Proofs.Sink.Directory
import EntityClasses.Proofs.Sink.Places

/-!
# The two sinks side by side

Files in memory and files in a directory agree as long as no file is to stand where another needs a
directory. The directories that a write makes lead to its own file, so they never stand where a file
belongs.
-/
namespace EntityClasses

namespace Directory

/-- The directory holds the files in memory, each at the place of its components, and no directories
but those that lead to a file. -/
structure Agrees (d : Directory) (files : MemoryFiles) : Prop where
  content : ∀ l, d.files.get? l = (SortedMap.get? files l).map (·.content)
  directories : ∀ l, d.directories.contains l = true ↔
    ∃ key, (SortedMap.get? files key).isSome ∧ (l <+: key ∧ l ≠ key) ∧ l ≠ []

variable {d : Directory} {files : MemoryFiles} {system : FileSystem}

theorem agrees_empty (system : FileSystem) : Agrees (emptyOn system) .empty where
  content _ := rfl
  directories _ := by
    refine iff_of_false nofun ?_
    rintro ⟨key, hkey, -⟩
    cases hkey

theorem Agrees.isSome_get? (h : Agrees d files) (l : Location) :
    (d.files.get? l).isSome = (SortedMap.get? files l).isSome := by
  rw [h.content, Option.isSome_map]

section

variable {key : Location} {directories : SortedSet Location}
  (hmade : ∀ l, directories.contains l = true ↔
    (l <+: key ∧ l ≠ key) ∧ l ≠ [] ∨ d.directories.contains l = true)

include hmade in
/-- The directories that lead to a file that is stored are there already. -/
theorem Agrees.skipped (h : Agrees d files) (hkey : (SortedMap.get? files key).isSome) :
    Agrees { d with directories := directories } files where
  content := h.content
  directories l := by
    rw [hmade, h.directories]
    refine ⟨?_, .inr⟩
    rintro (hl | hl)
    · exact ⟨key, hkey, hl⟩
    · exact hl

include hmade in
/-- A file comes with the directories that lead to it. -/
theorem Agrees.written (h : Agrees d files) (f : StoredFile) :
    Agrees { d with files := d.files.insert key f.content, directories := directories }
      (files.insert key f) where
  content l := by
    rw [SortedMap.get?_insert, SortedMap.get?_insert, h.content]
    split_ifs <;> rfl
  directories l := by
    rw [hmade, h.directories]
    constructor
    · rintro (hl | ⟨other, hother, hl⟩)
      · exact ⟨key, by rw [SortedMap.get?_insert_self]; rfl, hl⟩
      · refine ⟨other, ?_, hl⟩
        rw [SortedMap.get?_insert]
        split_ifs
        · rfl
        · exact hother
    · rintro ⟨other, hother, hl⟩
      rw [SortedMap.get?_insert] at hother
      split_ifs at hother with hsame
      · exact .inl (hsame ▸ hl)
      · exact .inr ⟨other, hother, hl⟩

end

/-- Both sinks answer a write alike, and agree afterwards. -/
theorem Agrees.write {w : WriteRequest} (h : Agrees d files) (hplain : Path.Plain w.path)
    (hadmits : d.system.Admits w.path)
    (hfree : ∀ key, (SortedMap.get? files key).isSome →
      key <+: Path.components w.path ∨ Path.components w.path <+: key →
      key = Path.components w.path) :
    ∃ o, (Directory.write w d).1 = .ok o ∧ (MemoryFiles.write w files).1 = .ok o ∧
      (Directory.write w d).2.system = d.system ∧
      Agrees (Directory.write w d).2 (MemoryFiles.write w files).2 := by
  have hfile : ∀ p, p <+: Path.components w.path → p ≠ Path.components w.path →
      d.files.get? p = none := by
    intro p hp hne
    rw [← Option.not_isSome_iff_eq_none, h.isSome_get?]
    exact fun hkey => hne (hfree p hkey (.inl hp))
  have hdirectory : d.directories.contains (Path.components w.path) = false := by
    rw [Bool.eq_false_iff, Ne, h.directories]
    rintro ⟨key, hkey, ⟨habove, hne⟩, -⟩
    exact hne (hfree key hkey (.inr habove)).symm
  obtain ⟨directories, hmade, hwrite⟩ := write_eq hplain hadmits hfile hdirectory
  rw [hwrite]
  rcases MemoryFiles.write_cases w files with ⟨hstored, hoff, hmemory⟩ | ⟨hnot, f, hf, hmemory⟩
  · rw [MemoryFiles.get?, Option.isSome_map] at hstored
    rw [if_pos ⟨hoff, (h.isSome_get? _).trans hstored⟩, hmemory]
    exact ⟨.skipped, rfl, rfl, rfl, h.skipped hmade hstored⟩
  · rw [MemoryFiles.get?, Option.isSome_map] at hnot
    rw [if_neg fun hs => hnot ⟨(h.isSome_get? _).symm.trans hs.2, hs.1⟩, hmemory, ← hf]
    exact ⟨.written, rfl, rfl, rfl, h.written hmade f⟩

/-- The run of both sinks: what each write finds is what the writes before it left. -/
theorem Agrees.replays {writes : List WriteRequest} (h : Agrees d files)
    (hplain : ∀ w ∈ writes, Path.Plain w.path) (hadmits : ∀ w ∈ writes, d.system.Admits w.path)
    (hfree : ∀ key, (SortedMap.get? files key).isSome ∨ key ∈ writes.map (Path.components ·.path) →
      ∀ w ∈ writes, key <+: Path.components w.path ∨ Path.components w.path <+: key →
        key = Path.components w.path) :
    ∃ attempts last lastFiles, attempts.map (·.request) = writes ∧
      (∀ a ∈ attempts, ∃ o, a.answer = .ok o) ∧
      Sink.memory.Replays files attempts lastFiles ∧ Sink.directory.Replays d attempts last ∧
      Agrees last lastFiles ∧
      ∀ key, (SortedMap.get? lastFiles key).isSome →
        (SortedMap.get? files key).isSome ∨ key ∈ writes.map (Path.components ·.path) := by
  induction writes generalizing d files with
  | nil => exact ⟨[], d, files, rfl, List.forall_mem_nil _, .nil _, .nil _, h, fun _ => .inl⟩
  | cons w writes ih =>
      rw [List.forall_mem_cons] at hplain hadmits
      obtain ⟨o, hdirectory, hmemory, hsystem, hnext⟩ := h.write hplain.1 hadmits.1
        fun key hkey => hfree key (.inl hkey) w List.mem_cons_self
      have hstored : ∀ key, (SortedMap.get? (MemoryFiles.write w files).2 key).isSome →
          (SortedMap.get? files key).isSome ∨ key = Path.components w.path := by
        intro key hkey
        rw [MemoryFiles.file_write] at hkey
        split_ifs at hkey with hsame
        · exact .inr hsame.symm
        · exact .inl hkey
      have hpast : ∀ key, (SortedMap.get? (MemoryFiles.write w files).2 key).isSome ∨
          key ∈ writes.map (Path.components ·.path) →
          (SortedMap.get? files key).isSome ∨
            key ∈ (w :: writes).map (Path.components ·.path) := by
        intro key hkey
        rw [List.map_cons, List.mem_cons]
        rcases hkey with hkey | hkey
        · exact (hstored key hkey).imp id .inl
        · exact .inr (.inr hkey)
      obtain ⟨attempts, last, lastFiles, hrequests, hok, hinMemory, hinDirectory, hagrees, hkeys⟩ :=
        ih hnext hplain.2 (hsystem ▸ hadmits.2)
          fun key hkey v hv => hfree key (hpast key hkey) v (List.mem_cons_of_mem w hv)
      refine ⟨⟨w, .ok o⟩ :: attempts, last, lastFiles, by rw [List.map_cons, hrequests],
        List.forall_mem_cons.2 ⟨⟨o, rfl⟩, hok⟩, .cons (Prod.ext hmemory rfl) hinMemory,
        .cons (Prod.ext hdirectory rfl) hinDirectory, hagrees, fun key hkey => ?_⟩
      exact hpast key (hkeys key hkey)

/-! ## What is in the directory -/

theorem Agrees.perm (h : Agrees d files) :
    d.files.entries.Perm (files.entries.map fun e => (e.1, e.2.content)) := by
  have hnodup : (files.entries.map fun e => (e.1, e.2.content)).Nodup := by
    apply List.Nodup.of_map Prod.fst
    rw [List.map_map]
    exact files.nodup_keys
  rw [List.perm_ext_iff_of_nodup d.files.nodup_entries hnodup]
  rintro ⟨l, content⟩
  rw [← SortedMap.get?_eq_some_iff, h.content, Option.map_eq_some_iff, List.mem_map]
  constructor
  · rintro ⟨f, hf, rfl⟩
    exact ⟨(l, f), SortedMap.get?_eq_some_iff.1 hf, rfl⟩
  · rintro ⟨⟨key, f⟩, hf, hsame⟩
    cases hsame
    exact ⟨f, SortedMap.get?_eq_some_iff.2 hf, rfl⟩

theorem names?_map_name (names : List String) :
    Location.names? (names.map .name) = some names := by
  have h : Location.names? (names.map .name) = some (names.map id) :=
    mapM_map_eq_some fun _ _ => rfl
  rwa [List.map_id] at h

/-- If all files have ordinary names, the list of paths and contents leaves none out. -/
theorem toList_perm (h : ∀ e ∈ d.files.entries, ∃ names : List String,
      e.1 = names.map .name ∧ ∀ s ∈ names, Path.IsName s) :
    (d.toList.map fun e => (Path.components e.1, e.2)).Perm d.files.entries := by
  let listed : Location × String → Option (String × String) := fun e =>
    (Location.names? e.1).map fun names => ("/".intercalate names, e.2)
  have hback : (d.files.entries.filterMap listed).map (fun e => (Path.components e.1, e.2)) =
      d.files.entries := by
    rw [List.map_filterMap]
    refine (List.filterMap_congr fun e he => ?_).trans List.filterMap_some
    obtain ⟨names, hl, hnames⟩ := h e he
    simp only [listed, hl, names?_map_name, Option.map_some, Path.components_intercalate hnames]
    rw [← hl]
  have hnodup : ((d.files.entries.filterMap listed).map Prod.fst).Nodup := by
    apply List.Nodup.of_map Path.components
    have hkeys := d.files.nodup_keys
    rw [SortedMap.keys, ← hback, List.map_map] at hkeys
    rwa [List.map_map]
  have hperm := (SortedMap.perm_ofList hnodup).map fun e => (Path.components e.1, e.2)
  rw [hback] at hperm
  exact hperm

end Directory

/-- On a file system that takes their paths and names, any writes to plain paths, none of which lies
below another, are answered alike by both sinks; none fails, and in the end the same files are there
with the same contents. The boundless file system takes all paths. -/
theorem Sink.directory_agrees_with_memory (system : FileSystem) (writes : List WriteRequest)
    (hplain : ∀ w ∈ writes, Path.Plain w.path) (hadmits : ∀ w ∈ writes, system.Admits w.path)
    (hfree : ∀ v ∈ writes, ∀ w ∈ writes, Path.components v.path <+: Path.components w.path →
      Path.components v.path = Path.components w.path) :
    ∃ attempts files d, attempts.map (·.request) = writes ∧
      (∀ a ∈ attempts, ∃ o, a.answer = .ok o) ∧
      Sink.memory.Replays .empty attempts files ∧
      Sink.directory.Replays (.emptyOn system) attempts d ∧
      (d.toList.map fun e => (Path.components e.1, e.2)).Perm
        (files.entries.map fun e => (e.1, e.2.content)) := by
  obtain ⟨attempts, d, files, hrequests, hok, hmemory, hdirectory, hagrees, hkeys⟩ :=
    (Directory.agrees_empty system).replays hplain hadmits (by
      rintro key (hkey | hkey) w hw hway
      · cases hkey
      · obtain ⟨v, hv, rfl⟩ := List.mem_map.1 hkey
        rcases hway with hway | hway
        · exact hfree v hv w hw hway
        · exact (hfree w hw v hv hway).symm)
  refine ⟨attempts, files, d, hrequests, hok, hmemory, hdirectory, ?_⟩
  refine (Directory.toList_perm fun e he => ?_).trans hagrees.perm
  -- Each file stands at the place of one of the writes.
  have hstored : (SortedMap.get? files e.1).isSome := by
    rw [← hagrees.isSome_get?, SortedMap.get?_eq_some_iff.2 he]
    rfl
  obtain ⟨w, hw, hplace⟩ := List.mem_map.1 ((hkeys e.1 hstored).resolve_left nofun)
  obtain ⟨names, hnames⟩ : e.1 ∈ Set.range (List.map Path.Component.name) := by
    rw [Set.range_list_map, ← hplace]
    intro c hc
    obtain ⟨s, rfl⟩ := (hplain w hw).names c hc
    exact ⟨s, rfl⟩
  refine ⟨names, hnames.symm, fun s hs => Path.isName_of_mem_components w.path ?_⟩
  rw [hplace, ← hnames]
  exact List.mem_map_of_mem hs

/-- Two writes to new files, then one that is skipped and one that overwrites, by other
spellings. -/
theorem Sink.directory_agrees_with_memory_four :
    let writes : List WriteRequest := [⟨"out/a.php", "1", false⟩, ⟨"out/b/c.php", "2", true⟩,
      ⟨"out//a.php", "3", false⟩, ⟨"out/./b/c.php", "4", true⟩]
    (∀ w ∈ writes, Path.Plain w.path) ∧ (∀ w ∈ writes, FileSystem.boundless.Admits w.path) ∧
      (∀ v ∈ writes, ∀ w ∈ writes, Path.components v.path <+: Path.components w.path →
        Path.components v.path = Path.components w.path) ∧
      ∃ attempts files d, attempts.map (·.request) = writes ∧
        (∀ a ∈ attempts, ∃ o, a.answer = .ok o) ∧
        Sink.memory.Replays .empty attempts files ∧
        Sink.directory.Replays (.emptyOn .boundless) attempts d ∧
        (d.toList.map fun e => (Path.components e.1, e.2)).Perm
          (files.entries.map fun e => (e.1, e.2.content)) := by
  intro writes
  have hplain : ∀ w ∈ writes, Path.Plain w.path := by decide
  have hadmits : ∀ w ∈ writes, FileSystem.boundless.Admits w.path :=
    fun w _ => FileSystem.boundless_admits w.path
  have hfree : ∀ v ∈ writes, ∀ w ∈ writes, Path.components v.path <+: Path.components w.path →
      Path.components v.path = Path.components w.path := by decide
  exact ⟨hplain, hadmits, hfree,
    directory_agrees_with_memory .boundless writes hplain hadmits hfree⟩

end EntityClasses
