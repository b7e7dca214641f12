import EntityClasses.Proofs.Path
import EntityClasses.Proofs.SortedMap
import EntityClasses.Proofs.Sink.Memory
import EntityClasses.Sink.Directory

/-!
# Writes to a directory

A write makes the directories above its file, and then the file itself. For a path of names nothing
is in the way of that unless a file stands where a directory is needed, or a directory where the
file is to stand.
-/
namespace EntityClasses

/-! ## Paths of files -/

namespace Path

/-- A path to a file below the place it starts from: names alone lead there, and its end does not
ask for a directory. -/
structure Plain (path : String) : Prop where
  names : ∀ c ∈ components path, ∃ s, c = .name s
  ending : Directory.asksDirectory path = false

instance (c : Component) : Decidable (∃ s, c = .name s) :=
  match c with
  | .name s => isTrue ⟨s, rfl⟩
  | .root | .current | .parent => isFalse nofun

instance (path : String) : Decidable (Plain path) :=
  decidable_of_iff ((∀ c ∈ components path, ∃ s, c = .name s) ∧
      Directory.asksDirectory path = false)
    ⟨fun h => ⟨h.1, h.2⟩, fun h => ⟨h.names, h.ending⟩⟩

theorem Plain.last_part {path : String} (h : Plain path) :
    ∃ l s, l ∈ path.toList.splitOn '/' ∧ component? l = some (.name s) := by
  have hending := h.ending
  unfold Directory.asksDirectory at hending
  cases hlast : (path.toList.splitOn '/').getLast? with
  | none => exact absurd (List.getLast?_eq_none_iff.1 hlast) (List.splitOn_ne_nil _ _)
  | some l =>
      rw [hlast] at hending
      have hl : ¬(l = [] ∨ l = ['.']) ∧ l ≠ ['.', '.'] := by simpa [and_assoc] using hending
      exact ⟨l, .ofList l, List.mem_of_getLast? hlast, by rw [component?, if_neg hl.1, if_neg hl.2]⟩

/-- The directories on the way, and the name of the file. -/
theorem Plain.eq_concat {path : String} (h : Plain path) :
    ∃ parents s, components path = parents ++ [.name s] := by
  have hne : components path ≠ [] := by
    obtain ⟨l, s, hl, hs⟩ := h.last_part
    have hmem : .name s ∈ parts path.toList := List.mem_filterMap.2 ⟨l, hl, hs⟩
    cases hpath : path.toList with
    | nil =>
        rw [hpath] at hmem
        cases hmem
    | cons c r =>
        by_cases hc : c = '/'
        · subst hc
          rw [components_of_root hpath]
          exact List.cons_ne_nil _ _
        · rw [components_of_head hpath hc]
          exact List.append_ne_nil_of_right_ne_nil _ (List.ne_nil_of_mem hmem)
  obtain ⟨parents, c, hc⟩ := (List.eq_nil_or_concat (components path)).resolve_left hne
  rw [List.concat_eq_append] at hc
  obtain ⟨s, rfl⟩ := h.names c (hc ▸ List.mem_append_right _ List.mem_cons_self)
  exact ⟨parents, s, hc⟩

end Path

/-- Whether a file system takes a path, the path of its directory and the names in it. -/
structure FileSystem.Admits (system : FileSystem) (path : String) : Prop where
  whole : system.isPath path = true
  directory : system.isPath (Path.parent path) = true
  names : ∀ s, .name s ∈ Path.components path → system.isName s = true

theorem FileSystem.boundless_admits (path : String) : boundless.Admits path :=
  ⟨rfl, rfl, fun _ _ => rfl⟩

/-! ## Walks -/

namespace Location

/-- The places that a walk by names comes by. -/
def way (l : Location) : List Path.Component → List Location
  | [] => []
  | c :: r => (l ++ [c]) :: way (l ++ [c]) r

theorem mem_way {l m : Location} {r : List Path.Component} :
    m ∈ way l r ↔ ∃ p, p <+: r ∧ p ≠ [] ∧ m = l ++ p := by
  induction r generalizing l with
  | nil =>
      refine iff_of_false List.not_mem_nil ?_
      rintro ⟨p, hp, hne, -⟩
      exact hne (List.prefix_nil.1 hp)
  | cons c r ih =>
      rw [way, List.mem_cons, ih]
      constructor
      · rintro (rfl | ⟨p, hp, -, rfl⟩)
        · exact ⟨[c], List.cons_prefix_cons.2 ⟨rfl, List.nil_prefix⟩, List.cons_ne_nil _ _, rfl⟩
        · exact ⟨c :: p, List.cons_prefix_cons.2 ⟨rfl, hp⟩, List.cons_ne_nil _ _, by simp⟩
      · rintro ⟨p, hp, hne, rfl⟩
        obtain ⟨q, rfl, hq⟩ := (List.prefix_cons_iff.1 hp).resolve_left hne
        by_cases hq' : q = []
        · exact .inl (by rw [hq'])
        · exact .inr ⟨q, hq, hq', by simp⟩

theorem mem_way_nil {m : Location} {r : List Path.Component} :
    m ∈ way [] r ↔ m <+: r ∧ m ≠ [] := by
  simp [mem_way]

/-- The places above the end of a walk. -/
theorem mem_way_above {l m r : Location} {c : Path.Component} (h : l = r ++ [c]) :
    m ∈ way [] r ↔ (m <+: l ∧ m ≠ l) ∧ m ≠ [] := by
  rw [mem_way_nil, h, List.prefix_concat_iff]
  refine and_congr_left fun _ => ⟨fun hm => ⟨.inr hm, ?_⟩, fun hm => hm.1.resolve_left hm.2⟩
  rintro rfl
  simpa using hm.length_le

end Location

open Location (way mem_way_nil mem_way_above)

namespace Directory

variable {d : Directory} {l m : Location} {r : List Path.Component}

theorem isDirectory_name (d : Directory) (l : Location) (s : String) :
    d.isDirectory (l ++ [.name s]) = d.directories.contains (l ++ [.name s]) := by
  rw [isDirectory, List.getLast?_concat]

/-- A walk by names leads down, through directories only. -/
theorem walk?_eq_some_iff (h : ∀ c ∈ r, ∃ s, c = .name s ∧ d.system.isName s = true) :
    d.walk? l r = some m ↔ m = l ++ r ∧ ∀ p ∈ way l r, d.directories.contains p = true := by
  induction r generalizing l with
  | nil =>
      rw [walk?, way, List.append_nil, Option.some.injEq, eq_comm]
      exact (and_iff_left (List.forall_mem_nil _)).symm
  | cons c r ih =>
      obtain ⟨⟨s, rfl, hs⟩, hr⟩ := List.forall_mem_cons.1 h
      rw [walk?, enter?, hs, isDirectory_name, Bool.true_and, way, List.forall_mem_cons]
      split_ifs with hdirectory
      · rw [Option.bind_some, ih hr, List.append_assoc, List.singleton_append,
          and_iff_right hdirectory]
      · exact iff_of_false nofun fun hm => hdirectory hm.2.1

/-- A walk by names past no file makes the directories it comes by, and nothing else. -/
theorem makeAll_eq (h : ∀ c ∈ r, ∃ s, c = .name s ∧ d.system.isName s = true)
    (hfree : ∀ p ∈ way l r, d.files.get? p = none) :
    ∃ directories : SortedSet Location,
      d.makeAll l r = (some (l ++ r), { d with directories := directories }) ∧
      ∀ p, directories.contains p = true ↔ p ∈ way l r ∨ d.directories.contains p = true := by
  induction r generalizing d l with
  | nil => exact ⟨d.directories, by rw [makeAll, List.append_nil], by simp [way]⟩
  | cons c r ih =>
      obtain ⟨⟨s, rfl, hs⟩, hr⟩ := List.forall_mem_cons.1 h
      obtain ⟨hhere, hbelow⟩ := List.forall_mem_cons.1 hfree
      obtain ⟨directories, hmake, hmem⟩ :=
        ih (d := { d with directories := d.directories.insert (l ++ [.name s]) () })
          (l := l ++ [.name s]) hr hbelow
      have hstep : d.make? l (.name s) = some (l ++ [.name s],
          { d with directories := d.directories.insert (l ++ [.name s]) () }) := by
        simp [make?, hs, hhere]
      refine ⟨directories, ?_, fun p => ?_⟩
      · rw [makeAll, hstep]
        dsimp only
        rw [hmake, List.append_assoc, List.singleton_append]
      · rw [hmem, SortedMap.contains_insert, way, List.mem_cons]
        tauto

/-! ## One write -/

section

variable {path : String} {parents : Location} {s : String}
  (hplain : Path.Plain path) (hadmits : d.system.Admits path)
  (hpath : Path.components path = parents ++ [.name s])

include hplain hadmits in
theorem names_admitted :
    ∀ c ∈ Path.components path, ∃ s, c = .name s ∧ d.system.isName s = true := by
  intro c hc
  obtain ⟨n, rfl⟩ := hplain.names c hc
  exact ⟨n, rfl, hadmits.names n hc⟩

include hplain hadmits hpath in
/-- If the directories above it are there, a file is looked for in its place. -/
theorem get?_eq (hparents : ∀ p ∈ way [] parents, d.directories.contains p = true) :
    d.get? path = d.files.get? (Path.components path) := by
  have hnames := names_admitted hplain hadmits
  rw [hpath] at hnames
  have hwalk : d.walk? [] parents = some parents :=
    (walk?_eq_some_iff fun c hc => hnames c (List.mem_append_left _ hc)).2 ⟨rfl, hparents⟩
  have hname : d.system.isName s = true :=
    hadmits.names s (hpath ▸ List.mem_append_right _ List.mem_cons_self)
  rw [get?, hpath, List.getLast?_concat, List.dropLast_concat, hwalk]
  simp [hadmits.whole, hplain.ending, hname]

include hplain hadmits hpath in
theorem exists?_eq (hparents : ∀ p ∈ way [] parents, d.directories.contains p = true)
    (hend : d.directories.contains (Path.components path) = false) :
    d.exists? path = (d.files.get? (Path.components path)).isSome := by
  have hwalk : d.walk? [] (Path.components path) = none := by
    rw [Option.eq_none_iff_forall_ne_some]
    intro m hm
    have hway := ((walk?_eq_some_iff (names_admitted hplain hadmits)).1 hm).2
      (Path.components path) (mem_way_nil.2 ⟨List.prefix_refl _, by simp [hpath]⟩)
    rw [hend] at hway
    cases hway
  rw [exists?, get?_eq hplain hadmits hpath hparents, hwalk]
  simp

include hadmits hpath in
theorem put?_eq (content : String)
    (hend : d.directories.contains (Path.components path) = false) :
    d.put? parents s content =
      some { d with files := d.files.insert (Path.components path) content } := by
  have hname : d.system.isName s = true :=
    hadmits.names s (hpath ▸ List.mem_append_right _ List.mem_cons_self)
  rw [put?, isDirectory_name, ← hpath]
  simp [hname, hend]

end

/-- A write to a path of names, with no file above its end and no directory there. -/
theorem write_eq {w : WriteRequest} (hplain : Path.Plain w.path) (hadmits : d.system.Admits w.path)
    (hfile : ∀ p, p <+: Path.components w.path → p ≠ Path.components w.path →
      d.files.get? p = none)
    (hdirectory : d.directories.contains (Path.components w.path) = false) :
    ∃ directories : SortedSet Location,
      (∀ p, directories.contains p = true ↔
        (p <+: Path.components w.path ∧ p ≠ Path.components w.path) ∧ p ≠ [] ∨
          d.directories.contains p = true) ∧
      write w d =
        if w.overwrite = false ∧ (d.files.get? (Path.components w.path)).isSome then
          (.ok .skipped, { d with directories := directories })
        else (.ok .written, { d with
          files := d.files.insert (Path.components w.path) w.content
          directories := directories }) := by
  obtain ⟨parents, s, hpath⟩ := hplain.eq_concat
  have hnames : ∀ c ∈ parents, ∃ s, c = .name s ∧ d.system.isName s = true := fun c hc =>
    names_admitted hplain hadmits c (hpath ▸ List.mem_append_left _ hc)
  have hfree : ∀ p ∈ way [] parents, d.files.get? p = none := by
    intro p hp
    obtain ⟨⟨hp, hne⟩, -⟩ := (mem_way_above hpath).1 hp
    exact hfile p hp hne
  obtain ⟨directories, hmake, hmem⟩ := makeAll_eq hnames hfree
  rw [List.nil_append] at hmake
  have hmade (p : Location) : directories.contains p = true ↔
      (p <+: Path.components w.path ∧ p ≠ Path.components w.path) ∧ p ≠ [] ∨
        d.directories.contains p = true := by
    rw [hmem, mem_way_above hpath]
  have hend : directories.contains (Path.components w.path) = false := by
    rw [Bool.eq_false_iff, Ne, hmade, hdirectory]
    simp
  have hexists := exists?_eq (d := { d with directories := directories }) hplain hadmits hpath
    (fun p hp => (hmem p).2 (.inl hp)) hend
  have hput := put?_eq (d := { d with directories := directories }) hadmits hpath w.content hend
  refine ⟨directories, hmade, ?_⟩
  rw [write, hadmits.directory, hpath, List.dropLast_concat, List.getLast?_concat, hmake, ← hpath]
  by_cases hskip : w.overwrite = false ∧ (d.files.get? (Path.components w.path)).isSome
  · simp [hexists, hskip]
  · have hcarry : (!w.overwrite && (d.files.get? (Path.components w.path)).isSome) = false := by
      simpa using hskip
    rw [if_neg hskip]
    simp [hexists, hcarry, hadmits.whole, hplain.ending, hput]

end Directory

end EntityClasses
