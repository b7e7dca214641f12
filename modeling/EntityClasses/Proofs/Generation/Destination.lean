import EntityClasses.Proofs.Generation.Enumeration
import EntityClasses.Proofs.Generation.Stages
import EntityClasses.Proofs.Name.Slash
import EntityClasses.Proofs.Path
import EntityClasses.Sink.Memory

/-!
# Where files go

A file is named for the class of its table. If the name of the table holds no slash, the name of
the file is one component, and the file goes right into the output directory; a slash leads to some
other directory, below it, above it or from the root. A run hands over no files but those of the
tables it has asked for.
-/
namespace EntityClasses

variable {σ τ α β : Type}

/-! ## The file of a table -/

/-- The files made for a table: its class, or an enumeration from its rows. -/
inductive Artifact.MadeFor (d : Dialect) (c : Config) : String → Artifact → Prop
  | ofEntity {e : Entity} {a : Artifact} (h : classArtifact d c e = .ok a) : MadeFor d c e.name a
  | ofRows {s : EnumSource} {a : Artifact} (h : enumArtifact d c s = .ok a) : MadeFor d c s.table a

namespace Artifact.MadeFor

variable {d : Dialect} {c : Config} {table : String} {a : Artifact}

theorem named (h : MadeFor d c table a) :
    a.className = c.classFor table ∧ a.extension = d.extension := by
  cases h with
  | ofEntity h => exact ⟨classArtifact_className h, classArtifact_extension h⟩
  | ofRows h =>
      obtain ⟨l, hl, rfl⟩ := map_eq_ok_iff.1 h
      obtain ⟨constants, -, rfl⟩ := map_eq_ok_iff.1 hl
      exact ⟨rfl, rfl⟩

/-- The name of the file is one component unless the name of the table holds a slash. -/
theorem isName_fileName_iff (h : MadeFor d c table a) :
    Path.IsName a.fileName ↔ '/' ∉ table.toList := by
  obtain ⟨hclass, hextension⟩ := h.named
  have htext : a.fileName.toList = (c.classFor table).toList ++ '.' :: d.extension.toList := by
    rw [Artifact.fileName, hclass, hextension]
    simp
  have hslash : '/' ∈ a.fileName.toList ↔ '/' ∈ table.toList := by
    have hending : '/' ∉ '.' :: d.extension.toList := by
      cases d <;> decide
    rw [htext, List.mem_append, or_iff_left hending, c.slash_mem_classFor_iff]
  have hlong : 2 < a.fileName.toList.length := by
    rw [htext, List.length_append]
    cases d <;> exact Nat.lt_of_lt_of_le (by decide) (Nat.le_add_left _ _)
  rw [Path.isName_iff, hslash, and_iff_left]
  refine ⟨?_, ?_, ?_⟩ <;>
    · intro heq
      rw [heq] at hlong
      revert hlong
      decide

/-- The file is right inside the output directory unless the name of the table holds a slash. -/
theorem inside_iff (h : MadeFor d c table a) (outputDir : String) :
    (Path.components (a.path outputDir) = Path.components outputDir ++ [.name a.fileName] ∧
      a.fileName ≠ "." ∧ a.fileName ≠ "..") ↔ '/' ∉ table.toList := by
  rw [← h.isName_fileName_iff]
  constructor
  · rintro ⟨hpath, -⟩
    apply Path.isName_of_mem_components (a.path outputDir)
    rw [hpath]
    exact List.mem_append_right _ List.mem_cons_self
  · intro hname
    exact ⟨Path.components_join outputDir hname, (Path.isName_iff.1 hname).2.2⟩

end Artifact.MadeFor

/-! ## The files of a run -/

/-- Each file that was handed over is that of a table whose columns were asked for. -/
def Trace.Saves (g : Generator σ τ) (t : Trace) : Prop :=
  ∀ attempt ∈ t.attempts, ∃ schema table a, Request.columns schema table ∈ t.requests ∧
    Artifact.MadeFor g.dialect g.config table a ∧ attempt.request = a.toRequest g.config

namespace Trace.Saves

variable {g : Generator σ τ} {t u : Trace}

theorem of_no_attempts (h : t.attempts = []) : t.Saves g := by
  rw [Saves, h]
  exact List.forall_mem_nil _

theorem append (ht : t.Saves g) (hu : u.Saves g) : (t ++ u).Saves g := by
  intro attempt hattempt
  rcases List.mem_append.1 hattempt with h | h
  · obtain ⟨schema, table, a, hasked, ha⟩ := ht attempt h
    exact ⟨schema, table, a, List.mem_append_left _ hasked, ha⟩
  · obtain ⟨schema, table, a, hasked, ha⟩ := hu attempt h
    exact ⟨schema, table, a, List.mem_append_right _ hasked, ha⟩

end Trace.Saves

namespace Generation

variable {g : Generator σ τ}

theorem Leaves.saves_bind {x : RecordedGeneration σ τ α} {f : α → RecordedGeneration σ τ β}
    (hx : Leaves x fun _ t => t.Saves g) (hf : ∀ a, Leaves (f a) fun _ t => t.Saves g) :
    Leaves (x >>= f) fun _ t => t.Saves g :=
  hx.bind (fun _ _ ht => ht) fun a _ ht => (hf a).mono fun _ _ hu => ht.append hu

theorem Leaves.saves_nothing {x : RecordedGeneration σ τ α} {P : Except Failure α → Trace → Prop}
    (hx : Leaves x P) (h : ∀ r t, P r t → t.attempts = []) : Leaves x fun _ t => t.Saves g :=
  hx.mono fun r t ht => .of_no_attempts (h r t ht)

theorem Leaves.saves_mapM {f : α → RecordedGeneration σ τ β}
    (hf : ∀ a, Leaves (f a) fun _ t => t.Saves g) (l : List α) :
    Leaves (l.mapM f) fun _ t => t.Saves g := by
  have hpure : ∀ bs : List β, Leaves (Pure.pure bs : RecordedGeneration σ τ (List β))
      fun _ t => t.Saves g := by
    intro bs
    apply (Leaves.pure bs).saves_nothing
    rintro r t ⟨-, rfl⟩
    rfl
  induction l with
  | nil => exact hpure []
  | cons a l ih =>
      rw [List.mapM_cons]
      exact (hf a).saves_bind fun b => ih.saves_bind fun bs => hpure (b :: bs)

end Generation

open Generation

namespace Generator

/-- The file of a table is handed over when its columns have been asked for. -/
theorem saves_of_delivery {g : Generator σ τ} (schema : String) {table : String} {a : Artifact}
    {t u : Trace} {r : Except Failure Artifact} (hasked : .columns schema table ∈ t.requests)
    (ht : t.attempts = []) (ha : Artifact.MadeFor g.dialect g.config table a)
    (hu : Delivery g a r u) : (t ++ u).Saves g := by
  cases hs : g.config.saveAfterCreate with
  | false =>
      apply Trace.Saves.of_no_attempts
      rw [Trace.attempts_append, ht, (hu.unsaved hs).2, List.append_nil]
  | true =>
      obtain ⟨answer, hattempts, -⟩ := hu.saved hs
      intro attempt hattempt
      rw [Trace.attempts_append, ht, hattempts, List.nil_append, List.mem_singleton] at hattempt
      subst hattempt
      exact ⟨schema, table, a, List.mem_append_left _ hasked, ha, rfl⟩

theorem runTable_saves (g : Generator σ τ) (schema table : String) :
    Leaves (g.recorded.runTable schema table) fun _ t => t.Saves g := by
  unfold runTable tableClass
  apply Leaves.inSpan
  apply Leaves.inSpan
  apply Leaves.noteFailure (P := fun _ t => t.Saves g)
  · apply (g.readEntity_leaves schema table).bind
    · rintro f t ⟨-, hatt, -⟩
      exact .of_no_attempts hatt
    rintro e t ⟨-, hatt, he⟩
    obtain ⟨hreq, rfl⟩ := he e rfl
    apply (Leaves.note (.entering .emitting e.name)).bind_ok
    apply (Generation.makeClass_leaves g.dialect g.config e).bind
    · rintro f u ⟨-, rfl⟩
      apply Trace.Saves.of_no_attempts
      simp [hatt]
    rintro a u ⟨ha, rfl⟩
    apply (g.deliver_leaves a).mono
    intro r u hu
    rw [← Trace.append_assoc, ← Trace.append_assoc]
    refine saves_of_delivery schema ?_ ?_ (.ofEntity ha.symm) hu
    · simp [hreq, tableRequests]
    · simp [hatt]
  · exact fun _ _ h => h
  · exact fun f t ht => ht.append (.of_no_attempts rfl)

theorem runSchema_saves (g : Generator σ τ) (schema : String) :
    Leaves (g.recorded.runSchema schema) fun _ t => t.Saves g := by
  rw [runSchema_eq]
  apply ((g.listTables_leaves schema).saves_nothing fun _ _ ht => ht.2).saves_bind
  intro tables
  apply (Leaves.saves_mapM (g.runTable_saves schema) tables).saves_bind
  intro artifacts
  apply ((Leaves.note _).inSpan _).bind_ok
  apply (Leaves.pure artifacts).mono
  rintro r t ⟨-, rfl⟩
  exact .of_no_attempts rfl

theorem EnumCourse.saves {g : Generator σ τ} {schema table nameField valueField : String} {s : σ}
    {k k' : τ} {r : Except Failure Artifact} {requests : List Request} {attempts : List Attempt}
    (h : g.EnumCourse schema table nameField valueField s k r requests attempts k')
    (events : List Event) : Trace.Saves g ⟨requests, attempts, events⟩ := by
  cases h with
  | @saved _ _ _ rows l _ _ _ _ _ _ hbuild _ _ =>
      have henum : enumArtifact g.dialect g.config ⟨table, rows, nameField, valueField⟩ =
          .ok (l.artifact g.dialect g.config) := by
        rw [enumArtifact, hbuild]
        rfl
      intro attempt hattempt
      rw [List.mem_singleton] at hattempt
      subst hattempt
      exact ⟨schema, table, _, List.mem_cons_self, .ofRows henum, rfl⟩
  | _ => exact .of_no_attempts rfl

theorem runEnum_saves (g : Generator σ τ) (schema table nameField valueField : String) :
    Leaves (g.recorded.runEnum schema table nameField valueField) fun _ t => t.Saves g := by
  intro spans w
  obtain ⟨r, s', k', requests, attempts, hcourse, hreaches⟩ :=
    g.runEnum_course schema table nameField valueField w.catalog.1 w.sink.1 w.catalog.2 w.sink.2
  obtain ⟨entries, hrun⟩ := hreaches spans w rfl rfl
  refine ⟨⟨requests, attempts, entries.map Entry.event⟩, ?_, hcourse.saves _⟩
  rw [hrun]
  ext1
  · rfl
  · rfl
  · exact List.map_append

theorem perform_saves (g : Generator σ τ) (task : Task) :
    Leaves (g.recorded.perform task) fun _ t => t.Saves g := by
  cases task with
  | schema schema => exact (g.runSchema_saves schema).discard fun _ _ ht => ht
  | table schema table => exact (g.runTable_saves schema table).discard fun _ _ ht => ht
  | entity schema table =>
      exact ((g.readEntity_leaves schema table).saves_nothing fun _ _ ht => ht.2.1).discard
        fun _ _ ht => ht
  | enumeration schema table nameField valueField =>
      exact (g.runEnum_saves schema table nameField valueField).discard fun _ _ ht => ht

/-- A file made for a table goes right into the output directory exactly if the name of the table
holds no slash, and the files handed over by a task are those made for tables it has asked for. -/
theorem saves_inside_iff (g : Generator σ τ) (task : Task) (w : RecordedWorld σ τ) :
    (∀ table a, Artifact.MadeFor g.dialect g.config table a →
      ((Path.components (a.path g.config.outputDir) =
          Path.components g.config.outputDir ++ [.name a.fileName] ∧
        a.fileName ≠ "." ∧ a.fileName ≠ "..") ↔ '/' ∉ table.toList)) ∧
    Mirrors (g.recorded.perform task) (g.perform task) ∧
    ∃ t, ((g.recorded.perform task).run w).2.trace = w.trace ++ t ∧
      ∀ attempt ∈ t.attempts, ∃ schema table a, Request.columns schema table ∈ t.requests ∧
        Artifact.MadeFor g.dialect g.config table a ∧
        attempt.request = a.toRequest g.config := by
  refine ⟨fun _ _ h => h.inside_iff g.config.outputDir, g.perform_mirrors task, ?_⟩
  exact g.perform_saves task [] w

end Generator

/-- Files are to go to `out`. -/
def outConfig : Config :=
  { Config.default with outputDir := "out" }

/-- A table of which only the name is known. -/
def bareTable (name : String) : Entity :=
  ⟨name, [], [], []⟩

theorem classArtifact_bareTable (d : Dialect) (c : Config) (name : String) :
    ∃ a, classArtifact d c (bareTable name) = .ok a ∧ Artifact.MadeFor d c name a :=
  ⟨_, rfl, .ofEntity (e := bareTable name) rfl⟩

/-- With the ending of a file even the name of the directory above is a name of its own. -/
theorem dots_inside : ∃ a, Artifact.MadeFor .php outConfig ".." a ∧ a.fileName = "...php" ∧
    Path.components (a.path outConfig.outputDir) = [.name "out", .name "...php"] := by
  obtain ⟨a, -, hmade⟩ := classArtifact_bareTable .php outConfig ".."
  have hname : a.fileName = "...php" := by
    rw [Artifact.fileName, hmade.named.1, hmade.named.2]
    decide +kernel
  let g : Generator Snapshot MemoryFiles := ⟨.ofSnapshot, .memory, outConfig, .php⟩
  have hinside := (g.saves_inside_iff (.table "shop" "..")
    ⟨(⟨.empty⟩, []), (.empty, []), []⟩).1 ".." a hmade
  refine ⟨a, hmade, hname, (hinside.2 (by decide)).1.trans ?_⟩
  rw [hname]
  decide

/-- A slash leads out. -/
theorem climbing_outside : ∃ a, classArtifact .php outConfig (bareTable "../order") = .ok a ∧
    a.path outConfig.outputDir = "out/../order.php" ∧
    ¬(Path.components (a.path outConfig.outputDir) =
        Path.components outConfig.outputDir ++ [.name a.fileName] ∧
      a.fileName ≠ "." ∧ a.fileName ≠ "..") := by
  obtain ⟨a, ha, hmade⟩ := classArtifact_bareTable .php outConfig "../order"
  have hname : a.fileName = "../order.php" := by
    rw [Artifact.fileName, hmade.named.1, hmade.named.2]
    decide +kernel
  refine ⟨a, ha, ?_, fun hinside => (hmade.inside_iff _).1 hinside (by decide)⟩
  rw [Artifact.path, hname]
  decide

end EntityClasses
