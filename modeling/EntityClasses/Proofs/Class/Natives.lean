import EntityClasses.Proofs.Class.Dependencies

/-!
# Native classes among the dependencies

The type of a column is native and never loaded. A relation may lead to a table whose class is named
like a native one, and then the class depends on it as on any other. So a class loads a native name
exactly if a relation leads to one.
-/
namespace EntityClasses

/-- A relation leads to a class with a native name, other than the class itself. -/
def Entity.LeadsToNative (e : Entity) (d : Dialect) (c : Config) : Prop :=
  ∃ r ∈ e.outgoing ++ e.incoming, c.ignores r.database = false ∧
    d.isNative (c.classFor r.target) = true ∧ c.classFor r.target ≠ c.classFor e.name

namespace ClassLayout

variable {d : Dialect} {c : Config} {e : Entity} {l : ClassLayout}

theorem native_mem_dependencies_iff (h : build d c e = .ok l) :
    (∃ name ∈ l.dependencies, d.isNative name = true) ↔ e.LeadsToNative d c := by
  constructor
  · rintro ⟨name, hname, hnative⟩
    obtain ⟨hused, hself⟩ := (mem_dependencies h).1 hname
    obtain ⟨r, hr, hkept, rfl⟩ := Entity.mem_usedClasses.1 hused
    exact ⟨r, hr, hkept, hnative, hself⟩
  · rintro ⟨r, hr, hkept, hnative, hself⟩
    have hused := Entity.mem_usedClasses.2 ⟨r, hr, hkept, rfl⟩
    exact ⟨_, (mem_dependencies h).2 ⟨hused, hself⟩, hnative⟩

end ClassLayout

/-! ## Lines that load or name a class -/

/-- A text between two others is told by the whole. -/
theorem append_append_inj {a b s t : String} (h : a ++ s ++ b = a ++ t ++ b) : s = t := by
  have h := congrArg String.toList h
  simp only [String.toList_append, List.append_assoc] at h
  exact String.toList_inj.1 (List.append_cancel_right (List.append_cancel_left h))

/-- So is one that stands there twice. -/
theorem append_twice_inj {a b c s t : String} (h : a ++ s ++ b ++ s ++ c = a ++ t ++ b ++ t ++ c) :
    s = t := by
  have h := congrArg String.toList h
  have hlength := congrArg List.length h
  simp only [String.toList_append, List.length_append] at hlength
  simp only [String.toList_append, List.append_assoc] at h
  have hparts := List.append_inj (List.append_cancel_left h) (by omega)
  exact String.toList_inj.1 hparts.1

theorem toList_mem_map_iff {f : String → String} (hf : Function.Injective f) {l : List String}
    {s : String} : (f s).toList ∈ (l.map f).map String.toList ↔ s ∈ l := by
  rw [List.map_map]
  exact List.mem_map_of_injective fun _ _ h => hf (String.toList_inj.1 h)

namespace Dialect

/-- The lines of a class are written alike, whichever of them are dropped afterwards. -/
theorem classLines_dedup (d : Dialect) (c : Config) (l : ClassLayout) (dedup : Dedup) :
    d.classLines { c with dedup := dedup } l = d.classLines c l := by
  cases d <;> rfl

theorem lineLoading_injective (d : Dialect) : Function.Injective d.lineLoading := by
  intro s t h
  cases d with
  | php => exact append_append_inj h
  | javaScript => exact append_twice_inj h

theorem loadKeyword_prefix (d : Dialect) (name : String) :
    d.loadKeyword.toList <+: (d.lineLoading name).toList := by
  cases d with
  | php =>
      have hstart : "require_once ".toList <+: "require_once __DIR__ . '/".toList := by decide
      unfold lineLoading
      dsimp only
      rw [String.append_assoc]
      exact prefix_append hstart _
  | javaScript =>
      have hstart : "import ".toList <+: "import \x7b ".toList := by decide
      unfold lineLoading
      dsimp only
      rw [String.append_assoc, String.append_assoc, String.append_assoc]
      exact prefix_append hstart _

end Dialect

namespace Php

theorem lineNaming_injective (c : Config) : Function.Injective (lineNaming c) :=
  fun _ _ h => append_append_inj h

theorem use_prefix (c : Config) (name : String) :
    "use ".toList <+: (lineNaming c name).toList := by
  unfold lineNaming
  rw [String.append_assoc, String.append_assoc, String.append_assoc]
  exact prefix_append List.prefix_rfl _

end Php

namespace ClassLayout

variable {d : Dialect} {c : Config} {e : Entity} {l : ClassLayout}

/-- A line is found among those that begin like it. If repeated lines are dropped, it is looked for
in the file with all its lines. -/
theorem hasLine_iff_mem_linesFrom {line start : String} (h : start.toList <+: line.toList) :
    (l.artifact d c).HasLine line ↔
      line.toList ∈ (l.artifact d { c with dedup := .imports }).linesFrom start := by
  rw [hasLine_iff, Artifact.linesFrom, artifact_content rfl, d.classLines_dedup c l .imports,
    List.mem_filter, and_iff_left (List.isPrefixOf_iff_prefix.2 h)]

theorem hasLine_lineLoading_iff (h : build d c e = .ok l) (he : e.Unbroken c) {name : String} :
    (l.artifact d c).HasLine (d.lineLoading name) ↔
      c.includeImports = true ∧ name ∈ l.dependencies := by
  have hlines := linesFrom_loadKeyword (d := d) (c := { c with dedup := .imports })
    (build_unbroken h he) rfl he.nameSpace
  rw [hasLine_iff_mem_linesFrom (d.loadKeyword_prefix name), hlines]
  by_cases himports : c.includeImports = true
  · rw [if_pos himports, and_iff_right himports, toList_mem_map_iff d.lineLoading_injective]
  · simp [himports]

theorem hasLine_lineNaming_iff (h : build .php c e = .ok l) (he : e.Unbroken c) {name : String} :
    (l.artifact .php c).HasLine (Php.lineNaming c name) ↔
      (c.sharedNamespace = true ∧ c.nameSpace ≠ "") ∧ name ∈ l.dependencies := by
  have hbuild : build .php { c with dedup := .imports } e = .ok l := h
  have hlines := linesFrom_use hbuild (build_unbroken h he) rfl he.nameSpace
  rw [hasLine_iff_mem_linesFrom (Php.use_prefix c name), hlines]
  by_cases hshared : c.sharedNamespace = true ∧ c.nameSpace ≠ ""
  · rw [if_pos hshared, and_iff_right hshared]
    exact toList_mem_map_iff (Php.lineNaming_injective c)
  · simp [hshared]

/-- A class depends on a native name exactly if one of its relations leads to a class of that name,
and then the file loads it by a line, if there are imports, and in a shared namespace names it. -/
theorem native_loaded_iff (h : build d c e = .ok l) :
    ((∃ name ∈ l.dependencies, d.isNative name = true) ↔ e.LeadsToNative d c) ∧
    (e.Unbroken c →
      ((∃ name, d.isNative name = true ∧ (l.artifact d c).HasLine (d.lineLoading name)) ↔
        c.includeImports = true ∧ e.LeadsToNative d c) ∧
      (d = .php →
        ((∃ name, d.isNative name = true ∧ (l.artifact d c).HasLine (Php.lineNaming c name)) ↔
          (c.sharedNamespace = true ∧ c.nameSpace ≠ "") ∧ e.LeadsToNative d c))) := by
  have hmem := native_mem_dependencies_iff h
  refine ⟨hmem, fun he => ⟨?_, ?_⟩⟩
  · rw [← hmem]
    simp only [hasLine_lineLoading_iff h he]
    tauto
  · rintro rfl
    rw [← hmem]
    simp only [hasLine_lineNaming_iff h he]
    tauto

end ClassLayout

/-- A table of its own and the table that its only relation leads to. -/
def relatedTo (table target : String) : Entity where
  name := table
  fields := []
  outgoing := [⟨target, target, false, "shop"⟩]
  incoming := []

theorem relatedTo_unbroken (c : Config) (table : String) {target : String}
    (hspace : OneLine c.nameSpace) (htarget : OneLine target) : (relatedTo table target).Unbroken c where
  nameSpace := hspace
  notes := List.forall_mem_nil _
  columns := List.forall_mem_nil _
  relations := by
    intro r hr
    obtain rfl := List.mem_singleton.1 (ClassLayout.mem_kept hr)
    exact htarget

/-- The exceptions of a run are not those of the language. -/
theorem exceptions_loaded :
    ∃ l, ClassLayout.build .php sharing (relatedTo "runs" "exceptions") = .ok l ∧
      (relatedTo "runs" "exceptions").Unbroken sharing ∧
      (relatedTo "runs" "exceptions").LeadsToNative .php sharing ∧
      (∃ name ∈ l.dependencies, Dialect.php.isNative name = true) ∧
      ∃ name, Dialect.php.isNative name = true ∧
        (l.artifact .php sharing).HasLine (Php.lineNaming sharing name) := by
  let l := ClassLayout.ofColumns .php sharing (relatedTo "runs" "exceptions") []
  have hbuild : ClassLayout.build .php sharing (relatedTo "runs" "exceptions") = .ok l := rfl
  have hunbroken : (relatedTo "runs" "exceptions").Unbroken sharing :=
    relatedTo_unbroken sharing "runs" (by decide) (by decide)
  have hleads : (relatedTo "runs" "exceptions").LeadsToNative .php sharing :=
    ⟨_, List.mem_singleton_self _, rfl, by decide +kernel, by decide +kernel⟩
  obtain ⟨hmem, hlines⟩ := ClassLayout.native_loaded_iff hbuild
  exact ⟨l, hbuild, hunbroken, hleads, hmem.2 hleads,
    ((hlines hunbroken).2 rfl).2 ⟨⟨rfl, by decide⟩, hleads⟩⟩

/-- The class of a table of dates is named like a built-in class, and it is loaded all the same. -/
theorem dates_loaded :
    ∃ a, classArtifact .javaScript .default (relatedTo "events" "dates") = .ok a ∧
      Dialect.javaScript.isNative "Date" = true ∧
      a.HasLine (Dialect.javaScript.lineLoading "Date") := by
  let l := ClassLayout.ofColumns .javaScript .default (relatedTo "events" "dates") []
  have hbuild : ClassLayout.build .javaScript .default (relatedTo "events" "dates") = .ok l := rfl
  have hunbroken : (relatedTo "events" "dates").Unbroken .default :=
    relatedTo_unbroken .default "events" (by decide) (by decide)
  refine ⟨l.artifact .javaScript .default, rfl, rfl, ?_⟩
  exact (ClassLayout.hasLine_lineLoading_iff hbuild hunbroken).2 ⟨rfl, by decide +kernel⟩

end EntityClasses
