import EntityClasses.Proofs.Sink.Places
import EntityClasses.Proofs.Snapshot.Entity

/-!
# Runs that are done again

What a run over a schema of a snapshot makes, and what it hands to files in memory, depends on the
snapshot and the settings, and not on the files that are there. So a second run makes the same,
fails in the same way, and writes what the first one wrote: the files stay as they are.
-/
namespace EntityClasses

namespace Snapshot

/-- The class of a table. -/
def classOf (s : Snapshot) (c : Config) (d : Dialect) (schema table : String) :
    Except Failure Artifact :=
  s.entity c.parseConstraints schema table >>= classArtifact d c

def tableNames (s : Snapshot) (schema : String) : Except Failure (List String) :=
  (s.answer (.tables schema)).mapError fun f => .query .listingTables schema f.message

/-- The classes of all tables of a schema, or the first failure. -/
def classesOf (s : Snapshot) (c : Config) (d : Dialect) (schema : String) :
    Except Failure (List Artifact) := do
  let tables ← s.tableNames schema
  tables.mapM (s.classOf c d schema)

/-- The classes of some tables up to the first that cannot be made. -/
def classesUpTo (s : Snapshot) (c : Config) (d : Dialect) (schema : String) :
    List String → List Artifact
  | [] => []
  | table :: rest =>
    match s.classOf c d schema table with
    | .ok a => a :: classesUpTo s c d schema rest
    | .error _ => []

/-- What a run over a schema hands over. -/
def deliveriesOf (s : Snapshot) (c : Config) (d : Dialect) (schema : String) : List WriteRequest :=
  match s.tableNames schema with
  | .ok tables => c.deliveries (s.classesUpTo c d schema tables)
  | .error _ => []

end Snapshot

/-- What is handed over of a class, if it can be made. -/
def Config.delivered (c : Config) : Except Failure Artifact → List WriteRequest
  | .ok a => c.deliveries [a]
  | .error _ => []

namespace Generation

variable {σ α β : Type}

/-- On a catalog in the state `s` the step has the result `r` and makes the writes `ws`, whatever
files are there. -/
def Delivers (s : σ) (x : Generation σ MemoryFiles α) (r : Except Failure α)
    (ws : List WriteRequest) : Prop :=
  ∀ files, Reaches s files x r s (files.writeAll ws)

variable {s : σ} {ws vs : List WriteRequest}

theorem Delivers.of_reads {x : Generation σ MemoryFiles α} {r : Except Failure α}
    (h : Reads s x r) : Delivers s x r [] :=
  fun files => reads_iff.1 h files

theorem Delivers.bind_ok {x : Generation σ MemoryFiles α} {f : α → Generation σ MemoryFiles β}
    {a : α} {r : Except Failure β} (hx : Delivers s x (.ok a) ws) (hf : Delivers s (f a) r vs) :
    Delivers s (x >>= f) r (ws ++ vs) := by
  intro files
  rw [MemoryFiles.writeAll_append]
  exact (hx files).bind_ok (hf _)

theorem Delivers.bind_reads {x : Generation σ MemoryFiles α} {f : α → Generation σ MemoryFiles β}
    {a : α} {r : Except Failure β} (hx : Reads s x (.ok a)) (hf : Delivers s (f a) r ws) :
    Delivers s (x >>= f) r ws :=
  (Delivers.of_reads hx).bind_ok hf

theorem Delivers.then_reads {x : Generation σ MemoryFiles α} {f : α → Generation σ MemoryFiles β}
    {a : α} {r : Except Failure β} (hx : Delivers s x (.ok a) ws) (hf : Reads s (f a) r) :
    Delivers s (x >>= f) r ws := by
  have h := hx.bind_ok (Delivers.of_reads hf)
  rwa [List.append_nil] at h

theorem Delivers.bind_error {x : Generation σ MemoryFiles α} {e : Failure}
    (hx : Delivers s x (.error e) ws) (f : α → Generation σ MemoryFiles β) :
    Delivers s (x >>= f) (.error e) ws :=
  fun files => (hx files).bind_error f

theorem Delivers.inSpan {x : Generation σ MemoryFiles α} {r : Except Failure α} (span : Span)
    (hx : Delivers s x r ws) : Delivers s (inSpan span x) r ws :=
  fun files => (hx files).inSpan span

theorem Delivers.noteFailure {x : Generation σ MemoryFiles α} {r : Except Failure α}
    (event : Failure → Event) (hx : Delivers s x r ws) : Delivers s (noteFailure event x) r ws :=
  fun files => (hx files).noteFailure event

end Generation

namespace Generator

open Generation

variable {c : Config} {d : Dialect} {s : Snapshot} {schema : String}

theorem deliver_delivers (a : Artifact) :
    Delivers s ((ofSnapshot .memory c d).deliver a) (.ok a) (c.deliveries [a]) := by
  intro files
  by_cases hs : c.saveAfterCreate
  · obtain ⟨o, ho⟩ := MemoryFiles.write_ok (a.toRequest c) files
    have hdeliveries : c.deliveries [a] = [a.toRequest c] := if_pos hs
    rw [hdeliveries]
    exact deliver_saved (g := ofSnapshot .memory c d) hs ho
  · have hdeliveries : c.deliveries [a] = [] := if_neg hs
    rw [hdeliveries]
    exact deliver_unsaved (g := ofSnapshot .memory c d) (Bool.eq_false_iff.2 hs)

/-- A table is made and handed over, if its class can be made. -/
theorem runTable_delivers (c : Config) (d : Dialect) (s : Snapshot) (schema table : String) :
    Delivers s ((ofSnapshot .memory c d).runTable schema table) (s.classOf c d schema table)
      (c.delivered (s.classOf c d schema table)) := by
  have hread := readEntity_reads .memory c d s schema table
  unfold runTable tableClass Snapshot.classOf
  apply Delivers.inSpan
  apply Delivers.inSpan
  apply Delivers.noteFailure
  cases he : s.entity c.parseConstraints schema table with
  | error f =>
      rw [he] at hread
      exact (Delivers.of_reads hread).bind_error _
  | ok e =>
      rw [he] at hread
      apply Delivers.bind_reads hread
      apply Delivers.bind_reads (Reads.note _)
      have hmake : Reads s (makeClass d c e : Generation Snapshot MemoryFiles Artifact)
          (classArtifact d c e) := Reads.makeClass d c e
      simp only [bind, Except.bind]
      cases hclass : classArtifact d c e with
      | error f =>
          rw [hclass] at hmake
          exact (Delivers.of_reads hmake).bind_error _
      | ok a =>
          rw [hclass] at hmake
          exact Delivers.bind_reads hmake (deliver_delivers a)

theorem runTable_delivers_ok {table : String} {a : Artifact}
    (h : s.classOf c d schema table = .ok a) :
    Delivers s ((ofSnapshot .memory c d).runTable schema table) (.ok a) (c.deliveries [a]) := by
  have hrun := runTable_delivers c d s schema table
  rwa [h] at hrun

theorem deliveries_nil (c : Config) : c.deliveries [] = [] := by
  simp [Config.deliveries]

/-- Tables are made and handed over up to the first that fails. -/
theorem mapM_runTable_delivers (c : Config) (d : Dialect) (s : Snapshot) (schema : String)
    (tables : List String) :
    Delivers s (tables.mapM ((ofSnapshot .memory c d).runTable schema))
      (tables.mapM (s.classOf c d schema)) (c.deliveries (s.classesUpTo c d schema tables)) := by
  induction tables with
  | nil =>
      rw [Snapshot.classesUpTo, deliveries_nil]
      exact Delivers.of_reads (Reads.pure [])
  | cons table rest ih =>
      have htable := runTable_delivers c d s schema table
      rw [List.mapM_cons, List.mapM_cons, Snapshot.classesUpTo]
      cases h : s.classOf c d schema table with
      | error f =>
          rw [h] at htable
          dsimp only
          rw [deliveries_nil]
          exact htable.bind_error _
      | ok a =>
          rw [h] at htable
          dsimp only
          rw [deliveries_cons]
          apply htable.bind_ok
          cases hrest : rest.mapM (s.classOf c d schema) with
          | error f =>
              rw [hrest] at ih
              exact ih.bind_error _
          | ok artifacts =>
              rw [hrest] at ih
              exact ih.then_reads (Reads.pure (a :: artifacts))

theorem runSchema_delivers (c : Config) (d : Dialect) (s : Snapshot) (schema : String) :
    Delivers s ((ofSnapshot .memory c d).runSchema schema) (s.classesOf c d schema)
      (s.deliveriesOf c d schema) := by
  have hlist : Reads s ((ofSnapshot .memory c d).listTables schema) (s.tableNames schema) :=
    fun spans w hw => Reads.ask s .listingTables (.tables schema) _ w hw
  rw [runSchema_eq]
  unfold Snapshot.classesOf Snapshot.deliveriesOf
  cases ht : s.tableNames schema with
  | error f =>
      rw [ht] at hlist
      exact (Delivers.of_reads hlist).bind_error _
  | ok tables =>
      rw [ht] at hlist
      apply Delivers.bind_reads hlist
      have hmade := mapM_runTable_delivers c d s schema tables
      simp only [bind, Except.bind]
      cases h : tables.mapM (s.classOf c d schema) with
      | error f =>
          rw [h] at hmade
          exact hmade.bind_error _
      | ok artifacts =>
          rw [h] at hmade
          apply hmade.then_reads
          have hclose : Reads s ((ofSnapshot Sink.memory c d).close schema artifacts.length)
              (.ok ()) := fun spans w hw => Reads.note _ _ w hw
          exact hclose.bind_ok (Reads.pure artifacts)

/-- The run over a schema, from any files and with records of requests and writes. -/
theorem runSchema_recorded (c : Config) (d : Dialect) (schema : String)
    (w : RecordedWorld Snapshot MemoryFiles) :
    let s := w.catalog.1
    let ended := ((ofSnapshot .memory c d).recorded.runSchema schema).run w
    ended.1 = s.classesOf c d schema ∧ ended.2.catalog.1 = s ∧
      ended.2.sink.1 = w.sink.1.writeAll (s.deliveriesOf c d schema) := by
  intro s ended
  have hmirror : (ofSnapshot .memory c d).runSchema schema [] w.forget =
      (ended.1, ended.2.forget) := (ofSnapshot .memory c d).runSchema_mirrors schema [] w
  obtain ⟨entries, hrun⟩ := runSchema_delivers c d s schema w.sink.1 [] w.forget rfl rfl
  obtain ⟨hresult, hworld⟩ := Prod.mk.inj (hmirror.symm.trans hrun)
  have hcatalog : ended.2.forget.catalog = s := by rw [hworld]
  have hsink : ended.2.forget.sink = w.sink.1.writeAll (s.deliveriesOf c d schema) := by
    rw [hworld]
  exact ⟨hresult, hcatalog, hsink⟩

/-- A run over a schema of a snapshot that is done again has the same result, be it a failure, and
leaves the files as the first run left them. -/
theorem runSchema_again (c : Config) (d : Dialect) (schema : String)
    (w : RecordedWorld Snapshot MemoryFiles) :
    let g := ofSnapshot .memory c d
    let first := (g.recorded.runSchema schema).run w
    let again := (g.recorded.runSchema schema).run first.2
    Mirrors (g.recorded.runSchema schema) (g.runSchema schema) ∧
      again.1 = first.1 ∧ again.2.sink.1 = first.2.sink.1 ∧ again.2.catalog.1 = w.catalog.1 := by
  intro g first again
  obtain ⟨hfirst, hcatalog, hsink⟩ := runSchema_recorded c d schema w
  obtain ⟨hagain, hcatalog', hsink'⟩ := runSchema_recorded c d schema first.2
  rw [hcatalog] at hagain hcatalog' hsink'
  refine ⟨g.runSchema_mirrors schema, hagain.trans hfirst.symm, ?_, hcatalog'⟩
  rw [hsink', hsink, MemoryFiles.writeAll_again]

end Generator

end EntityClasses
