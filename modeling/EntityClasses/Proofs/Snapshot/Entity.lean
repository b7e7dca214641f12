import EntityClasses.Proofs.Generation.Reaches
import EntityClasses.Proofs.Generation.Sequence

/-!
# Entities read from a snapshot

What a run reads of a table when a snapshot is its catalog, as a function of the snapshot alone:
the run changes neither the snapshot nor the sink. The incoming relations of a table are those of
all foreign keys that name it, wherever they are declared.
-/
namespace EntityClasses

/-- A foreign key with the table and the database that declare it. -/
structure DeclaredKey where
  database : String
  table : Table
  key : ForeignKey

namespace DeclaredKey

/-- The database of the table that the key references. -/
def referencedDatabase (k : DeclaredKey) : String :=
  k.key.database.getD k.database

/-- The key as the table it references sees it. -/
def incoming (k : DeclaredKey) : IncomingKey :=
  ⟨k.table.name, k.key.constraint, k.database⟩

end DeclaredKey

namespace Snapshot

/-- All foreign keys, by database, table and declaration. -/
def declaredKeys (s : Snapshot) : List DeclaredKey :=
  s.databases.entries.flatMap fun p => p.2.flatMap fun t => t.foreignKeys.map (⟨p.1, t, ·⟩)

/-- The foreign keys that name a table, of whichever database. -/
def keysNaming (s : Snapshot) (table : String) : List DeclaredKey :=
  s.declaredKeys.filter (·.key.table = table)

/-- The foreign keys that reference a table of a database. -/
def keysReferencing (s : Snapshot) (schema table : String) : List DeclaredKey :=
  s.declaredKeys.filter fun k => k.key.table = table ∧ k.referencedDatabase = schema

theorem incomingKeys_eq (s : Snapshot) (table : String) :
    s.incomingKeys table = (s.keysNaming table).map DeclaredKey.incoming := by
  simp only [incomingKeys, keysNaming, declaredKeys, List.filter_flatMap, List.map_flatMap,
    List.filter_map, List.map_map]
  rfl

theorem keysReferencing_sublist (s : Snapshot) (schema table : String) :
    (s.keysReferencing schema table).Sublist (s.keysNaming table) := by
  have h : s.keysReferencing schema table =
      (s.keysNaming table).filter fun k => k.referencedDatabase = schema := by
    simp [keysReferencing, keysNaming, List.filter_filter, Bool.and_comm]
  rw [h]
  exact List.filter_sublist

/-- A table as an entity. -/
def entityOf (s : Snapshot) (parseConstraints : Bool) (schema name : String) (t : Table) :
    Entity where
  name := name
  fields := t.columns
  outgoing := (outgoingKeys t schema).map .ofOutgoing
  incoming := (s.incomingKeys name).map (.ofIncoming parseConstraints)

def entity (s : Snapshot) (parseConstraints : Bool) (schema name : String) :
    Except Failure Entity :=
  match s.table schema name with
  | .ok t => .ok (s.entityOf parseConstraints schema name t)
  | .error f => .error (.query .fetchingFields name f.message)

end Snapshot

namespace Generation

variable {σ τ α β : Type}

/-- On a catalog in the state `s` the step has the result `r`, and changes nothing but the
journal. -/
def Reads (s : σ) (x : Generation σ τ α) (r : Except Failure α) : Prop :=
  ∀ spans w, w.catalog = s → ∃ entries, x spans w = (r, { w with journal := w.journal ++ entries })

variable {s : σ}

theorem reads_iff {x : Generation σ τ α} {r : Except Failure α} :
    Reads s x r ↔ ∀ k, Reaches s k x r s k := by
  constructor
  · rintro h k spans w rfl rfl
    exact h spans w rfl
  · rintro h spans w rfl
    exact h w.sink spans w rfl rfl

theorem Reads.pure (a : α) : Reads s (pure a : Generation σ τ α) (.ok a) :=
  reads_iff.2 fun _ => Reaches.pure a

theorem Reads.fail (f : Failure) : Reads s (fail f : Generation σ τ α) (.error f) :=
  reads_iff.2 fun _ => Reaches.fail f

theorem Reads.note (e : Event) : Reads s (note e : Generation σ τ Unit) (.ok ()) :=
  reads_iff.2 fun _ => Reaches.note e

theorem Reads.ok {x : Generation σ τ α} {r : Except Failure α} {spans : List Span} {a : α}
    {w v : World σ τ} (hx : Reads s x r) (hw : w.catalog = s) (h : x spans w = (.ok a, v)) :
    r = .ok a ∧ v.catalog = s := by
  obtain ⟨entries, hr⟩ := hx spans w hw
  rw [h] at hr
  cases hr
  exact ⟨rfl, hw⟩

theorem Reads.bind_ok {x : Generation σ τ α} {f : α → Generation σ τ β} {a : α}
    {r : Except Failure β} (hx : Reads s x (.ok a)) (hf : Reads s (f a) r) :
    Reads s (x >>= f) r :=
  reads_iff.2 fun k => (reads_iff.1 hx k).bind_ok (reads_iff.1 hf k)

theorem Reads.bind_error {x : Generation σ τ α} {e : Failure} (hx : Reads s x (.error e))
    (f : α → Generation σ τ β) : Reads s (x >>= f) (.error e) :=
  reads_iff.2 fun k => (reads_iff.1 hx k).bind_error f

theorem Reads.mapM {f : α → Generation σ τ β} {g : α → β} (hf : ∀ a, Reads s (f a) (.ok (g a)))
    (l : List α) : Reads s (l.mapM f) (.ok (l.map g)) := by
  induction l with
  | nil => exact Reads.pure []
  | cons a l ih =>
      rw [List.mapM_cons]
      apply (hf a).bind_ok
      apply ih.bind_ok
      exact Reads.pure (g a :: l.map g)

theorem Reads.forM_note (event : α → Event) (l : List α) :
    Reads s (l.forM fun a => Generation.note (event a) : Generation σ τ Unit) (.ok ()) := by
  induction l with
  | nil => exact Reads.pure ()
  | cons a l ih => exact (Reads.note (event a)).bind_ok ih

theorem Reads.ask (s : Snapshot) (stage : Stage) (q : Request) :
    Reads s (ask .ofSnapshot stage q : Generation Snapshot τ q.Answer)
      ((s.answer q).mapError fun f => .query stage q.target f.message) := by
  have hmessage : (s.answer q).mapError (fun f => Failure.query stage q.target f.message) =
      ((s.answer q).mapError LookupFailure.message).mapError (.query stage q.target) := by
    cases s.answer q <;> rfl
  rw [hmessage]
  exact reads_iff.2 fun _ => Reaches.ask stage rfl

theorem Reads.makeClass (d : Dialect) (c : Config) (e : Entity) :
    Reads s (makeClass d c e : Generation σ τ Artifact) (classArtifact d c e) := by
  unfold Generation.makeClass classArtifact
  cases ClassLayout.build d c e with
  | error f => exact Reads.fail f
  | ok l =>
      apply (Reads.forM_note _ _).bind_ok
      exact Reads.pure (l.artifact d c)

end Generation

namespace Generator

open Generation

variable {σ τ : Type}

/-- A generator with a snapshot as its catalog. -/
def ofSnapshot (k : Sink τ) (c : Config) (d : Dialect) : Generator Snapshot τ :=
  ⟨.ofSnapshot, k, c, d⟩

theorem incomingRelations_reads (g : Generator σ τ) (s : σ) (keys : List IncomingKey) :
    Reads s (g.incomingRelations keys)
      (.ok (keys.map (.ofIncoming g.config.parseConstraints))) := by
  unfold incomingRelations
  apply Reads.mapM
  intro k
  by_cases h : (Relation.ofIncoming g.config.parseConstraints k).field.isEmpty
  · simp only [h, if_true]
    exact (Reads.note _).bind_ok (Reads.pure _)
  · simp only [h]
    exact Reads.pure _

theorem readEntity_reads (k : Sink τ) (c : Config) (d : Dialect) (s : Snapshot)
    (schema table : String) :
    Reads s ((ofSnapshot k c d).readEntity schema table)
      (s.entity c.parseConstraints schema table) := by
  unfold readEntity Snapshot.entity
  have hfields := Reads.ask (τ := τ) s .fetchingFields (.columns schema table)
  have houtgoing := Reads.ask (τ := τ) s .fetchingOwnRelations (.outgoingKeys schema table)
  have hincoming := Reads.ask (τ := τ) s .fetchingInverseRelations (.incomingKeys table)
  simp only [Snapshot.answer] at hfields houtgoing hincoming
  cases h : s.table schema table with
  | error f =>
      rw [h] at hfields
      exact hfields.bind_error _
  | ok t =>
      rw [h] at hfields houtgoing
      apply hfields.bind_ok
      apply houtgoing.bind_ok
      apply hincoming.bind_ok
      apply (incomingRelations_reads (ofSnapshot k c d) s (s.incomingKeys table)).bind_ok
      exact Reads.pure (s.entityOf c.parseConstraints schema table t)

theorem deliver_ok {g : Generator σ τ} {a b : Artifact} {spans : List Span} {w v : World σ τ}
    (h : g.deliver a spans w = (.ok b, v)) : b = a ∧ v.catalog = w.catalog := by
  unfold deliver at h
  by_cases hs : g.config.saveAfterCreate
  · simp only [hs, if_true] at h
    obtain ⟨o, u, hwrite, h⟩ := bind_ok h
    rw [write_apply] at hwrite
    obtain ⟨-, rfl⟩ := Prod.mk.inj hwrite
    cases h
    exact ⟨rfl, rfl⟩
  · simp only [hs] at h
    cases h
    exact ⟨rfl, rfl⟩

/-- A table that succeeds is the class of its entity, and the snapshot stays. -/
theorem runTable_ok {k : Sink τ} {c : Config} {d : Dialect} {schema table : String}
    {w v : World Snapshot τ} {a : Artifact}
    (h : ((ofSnapshot k c d).runTable schema table).run w = (.ok a, v)) :
    v.catalog = w.catalog ∧ ∃ e, w.catalog.entity c.parseConstraints schema table = .ok e ∧
      classArtifact d c e = .ok a := by
  obtain ⟨e, u, hread, h⟩ := bind_ok (noteFailure_ok h)
  obtain ⟨he, hu⟩ := (readEntity_reads k c d w.catalog schema table).ok rfl hread
  obtain ⟨_, u', hnote, h⟩ := bind_ok h
  cases hnote
  obtain ⟨b, x, hmake, h⟩ := bind_ok h
  obtain ⟨hb, hx⟩ := Reads.ok (Reads.makeClass d c e) (by exact hu) hmake
  obtain ⟨rfl, hv⟩ := deliver_ok h
  exact ⟨hv.trans hx, e, he, hb⟩

theorem inTurn_ok {k : Sink τ} {c : Config} {d : Dialect} {schema : String}
    {w v : World Snapshot τ} {names : List String} {artifacts : List Artifact}
    (h : InTurn ((ofSnapshot k c d).runTable schema) w names artifacts v) :
    List.Forall₂ (fun name a => ∃ e, w.catalog.entity c.parseConstraints schema name = .ok e ∧
      classArtifact d c e = .ok a) names artifacts := by
  induction h with
  | nil w => exact .nil
  | cons h rest ih =>
      obtain ⟨hv, he⟩ := runTable_ok h
      rw [hv] at ih
      exact .cons he ih

/-- A schema that succeeds is the classes of the entities of its tables, in listing order. -/
theorem runSchema_ok {k : Sink τ} {c : Config} {d : Dialect} {schema : String}
    {w v : World Snapshot τ} {artifacts : List Artifact}
    (h : ((ofSnapshot k c d).runSchema schema).run w = (.ok artifacts, v)) :
    ∃ tables, w.catalog.tables schema = .ok tables ∧
      List.Forall₂ (fun name a => ∃ e, w.catalog.entity c.parseConstraints schema name = .ok e ∧
        classArtifact d c e = .ok a) (tables.map (·.name)) artifacts := by
  rw [runSchema_eq] at h
  obtain ⟨names, u, hlist, h⟩ := bind_ok h
  obtain ⟨hnames, hu⟩ := Reads.ok (Reads.ask w.catalog .listingTables (.tables schema)) rfl hlist
  obtain ⟨made, x, hmade, h⟩ := bind_ok h
  obtain ⟨_, y, hclose, h⟩ := bind_ok h
  cases h
  simp only [Snapshot.answer] at hnames
  cases ht : w.catalog.tables schema with
  | error f =>
      rw [ht] at hnames
      cases hnames
  | ok tables =>
      rw [ht] at hnames
      cases hnames
      refine ⟨tables, rfl, ?_⟩
      rcases run_mapM ((ofSnapshot k c d).runTable schema) (tables.map (·.name)) u with
        ⟨made', x', hin, hrun⟩ | ⟨before, a, after, bs, u', e, x', -, -, -, hrun⟩
      · have hmade' := hmade.symm.trans hrun
        cases hmade'
        rw [← hu]
        exact inTurn_ok hin
      · have hmade' := hmade.symm.trans hrun
        cases hmade'

end Generator

end EntityClasses
