import EntityClasses.Proofs.Class.Layout
import EntityClasses.Proofs.Generation.Trace

/-!
# What the run of a table leaves behind

The requests, files and events of each step that makes the class of a table. A table that succeeds
has asked its three requests and handed its class to the sink once, if files are saved; one that
fails has asked the first few of them, and the sink has taken nothing.
-/
namespace EntityClasses

variable {σ τ : Type}

/-- What a table asks of the catalog, in order. -/
def tableRequests (schema table : String) : List Request :=
  [.columns schema table, .outgoingKeys schema table, .incomingKeys table]

namespace Artifact

/-- How an artifact is handed to the sink. -/
def toRequest (a : Artifact) (c : Config) : WriteRequest :=
  ⟨a.path c.outputDir, a.content, c.overwrite⟩

end Artifact

/-- What is handed to the sink for some artifacts. -/
def Config.deliveries (c : Config) (artifacts : List Artifact) : List WriteRequest :=
  if c.saveAfterCreate then artifacts.map (·.toRequest c) else []

open Generation

/-- The relations left out are noted if the class can be made. -/
def Entity.skipEvents (e : Entity) (d : Dialect) (c : Config) : List Event :=
  match ClassLayout.build d c e with
  | .ok _ => (e.ignored c).map fun p => .skippedRelation e.name p.1 p.2
  | .error _ => []

theorem Generation.makeClass_leaves (d : Dialect) (c : Config) (e : Entity) :
    Leaves (makeClass d c e : RecordedGeneration σ τ Artifact) fun r t =>
      r = classArtifact d c e ∧ t = ⟨[], [], e.skipEvents d c⟩ := by
  unfold makeClass classArtifact Entity.skipEvents
  cases h : ClassLayout.build d c e with
  | error f =>
      apply (Leaves.fail f).mono
      rintro r t ⟨rfl, rfl⟩
      exact ⟨rfl, rfl⟩
  | ok l =>
      apply (Leaves.pure l).bind_ok
      apply (Leaves.forM_note _ _).bind_ok
      apply (Leaves.pure _).mono
      rintro r t ⟨rfl, rfl⟩
      refine ⟨rfl, ?_⟩
      ext1 <;> simp [Trace.empty]

namespace Generator

/-- The keys that yield no field name are noted. -/
def emptyFieldEvents (g : Generator σ τ) (keys : List IncomingKey) : List Event :=
  (keys.filter fun k => (Relation.ofIncoming g.config.parseConstraints k).field.isEmpty).map
    .emptyField

theorem incomingRelations_leaves (g : Generator σ τ) (keys : List IncomingKey) :
    Leaves (g.recorded.incomingRelations keys) fun r t =>
      r = .ok (keys.map (.ofIncoming g.config.parseConstraints)) ∧
        t = ⟨[], [], g.emptyFieldEvents keys⟩ := by
  unfold incomingRelations
  induction keys with
  | nil => exact Leaves.pure []
  | cons k keys ih =>
      rw [List.mapM_cons]
      have hk : Leaves (do
          let r := Relation.ofIncoming g.config.parseConstraints k
          if r.field.isEmpty then note (.emptyField k)
          return r : RecordedGeneration σ τ Relation) fun r t =>
          r = .ok (.ofIncoming g.config.parseConstraints k) ∧
            t = ⟨[], [], g.emptyFieldEvents [k]⟩ := by
        by_cases h : (Relation.ofIncoming g.config.parseConstraints k).field.isEmpty
        · simp only [h, if_true, emptyFieldEvents, List.filter_cons, List.filter_nil, List.map]
          apply (Leaves.note _).bind_ok
          exact (Leaves.pure _).mono fun r t ht => ⟨ht.1, ht.2 ▸ Trace.append_empty _⟩
        · simp only [h, emptyFieldEvents, List.filter_cons, List.filter_nil]
          exact Leaves.pure _
      apply hk.bind_ok
      apply ih.bind_ok
      apply (Leaves.pure _).mono
      rintro r t ⟨rfl, rfl⟩
      refine ⟨rfl, ?_⟩
      ext1
      · rfl
      · rfl
      · simp [Trace.empty, emptyFieldEvents, ← List.map_append, ← List.filter_append]

/-- A table that cannot be read has asked the first few of its requests. -/
theorem readEntity_leaves (g : Generator σ τ) (schema table : String) :
    Leaves (g.recorded.readEntity schema table) fun r t =>
      t.requests <+: tableRequests schema table ∧ t.attempts = [] ∧
        ∀ e, r = .ok e → t.requests = tableRequests schema table ∧ e.name = table := by
  unfold readEntity
  apply (Leaves.ask g.catalog .fetchingFields _).bind
  · rintro e t ⟨rfl, -⟩
    exact ⟨⟨_, rfl⟩, rfl, by rintro b ⟨⟩⟩
  rintro fields - ⟨rfl, -⟩
  apply (Leaves.ask g.catalog .fetchingOwnRelations _).bind
  · rintro e t ⟨rfl, -⟩
    exact ⟨⟨_, rfl⟩, rfl, by rintro b ⟨⟩⟩
  rintro outgoing - ⟨rfl, -⟩
  apply (Leaves.ask g.catalog .fetchingInverseRelations _).bind
  · rintro e t ⟨rfl, -⟩
    exact ⟨⟨_, rfl⟩, rfl, by rintro b ⟨⟩⟩
  rintro incoming - ⟨rfl, -⟩
  apply (g.incomingRelations_leaves incoming).bind_ok
  apply (Leaves.pure _).mono
  rintro r t ⟨rfl, rfl⟩
  refine ⟨⟨[], rfl⟩, rfl, ?_⟩
  rintro e he
  cases he
  exact ⟨rfl, rfl⟩

/-- A file is handed over once, and the answer to it is the result; nothing is handed over if files
are not saved. -/
structure Delivery (g : Generator σ τ) (a : Artifact) (r : Except Failure Artifact) (t : Trace) :
    Prop where
  asked : t.requests = []
  unsaved : g.config.saveAfterCreate = false → r = .ok a ∧ t.attempts = []
  saved : g.config.saveAfterCreate = true → ∃ answer : Except Failure Outcome,
    t.attempts = [⟨a.toRequest g.config, answer⟩] ∧ r = answer.map fun _ => a

theorem deliver_leaves (g : Generator σ τ) (a : Artifact) :
    Leaves (g.recorded.deliver a) (Delivery g a) := by
  unfold deliver
  by_cases hs : g.config.saveAfterCreate
  · have hon : g.config.saveAfterCreate ≠ false := fun h => by simp [h] at hs
    simp only [recorded, hs, if_true]
    apply (Leaves.write g.sink (a.toRequest g.config)).bind
    · rintro e t rfl
      exact ⟨rfl, fun h => absurd h hon, fun _ => ⟨.error e, rfl, rfl⟩⟩
    · rintro o t rfl
      apply (Leaves.note _).bind_ok
      apply (Leaves.pure a).mono
      rintro r t ⟨rfl, rfl⟩
      exact ⟨rfl, fun h => absurd h hon, fun _ => ⟨.ok o, rfl, rfl⟩⟩
  · simp only [recorded, hs]
    apply (Leaves.note (.generated a.className)).bind_ok
    apply (Leaves.pure a).mono
    rintro r t ⟨rfl, rfl⟩
    exact ⟨rfl, fun _ => ⟨rfl, rfl⟩, fun h => absurd h hs⟩

/-- What the run of a table adds to the records. -/
structure TableTrace (g : Generator σ τ) (schema table : String) (r : Except Failure Artifact)
    (t : Trace) : Prop where
  asked : t.requests <+: tableRequests schema table
  unsaved : g.config.saveAfterCreate = false → t.attempts = []
  failed : ∀ f, r = .error f → t.accepted = []
  made : ∀ a, r = .ok a → t.requests = tableRequests schema table ∧
    t.accepted = g.config.deliveries [a] ∧ a.className = g.config.classFor table

theorem TableTrace.of_delivery {g : Generator σ τ} {schema table : String} {t u : Trace}
    {a : Artifact} {r : Except Failure Artifact} (ht : t.requests = tableRequests schema table)
    (hatt : t.attempts = []) (ha : a.className = g.config.classFor table)
    (hu : Delivery g a r u) : TableTrace g schema table r (t ++ u) := by
  obtain ⟨hreq, hoff, hon⟩ := hu
  have hasked : (t ++ u).requests = tableRequests schema table := by simp [hreq, ht]
  by_cases hs : g.config.saveAfterCreate
  · obtain ⟨answer, hu, rfl⟩ := hon hs
    refine ⟨hasked ▸ List.prefix_refl _, fun h => by simp [hs] at h, ?_, ?_⟩
    · intro f hf
      cases answer with
      | error e => simp [Trace.accepted, hatt, hu, Attempt.accepted?]
      | ok o => cases hf
    · intro b hb
      cases answer with
      | error e => cases hb
      | ok o =>
          cases hb
          refine ⟨hasked, ?_, ha⟩
          simp [Trace.accepted, hatt, hu, Attempt.accepted?, Config.deliveries, hs]
  · obtain ⟨rfl, hu⟩ := hoff (by simpa using hs)
    refine ⟨hasked ▸ List.prefix_refl _, fun _ => by simp [hatt, hu], by rintro f ⟨⟩, ?_⟩
    intro b hb
    cases hb
    refine ⟨hasked, ?_, ha⟩
    simp [Trace.accepted, hatt, hu, Config.deliveries, hs]

theorem runTable_leaves (g : Generator σ τ) (schema table : String) :
    Leaves (g.recorded.runTable schema table) (TableTrace g schema table) := by
  unfold runTable tableClass
  apply Leaves.inSpan
  apply Leaves.inSpan
  apply Leaves.noteFailure (P := TableTrace g schema table)
  · apply (g.readEntity_leaves schema table).bind
    · rintro e t ⟨hreq, hatt, -⟩
      exact ⟨hreq, fun _ => hatt, fun _ _ => Trace.accepted_of_no_attempts hatt,
        by rintro b ⟨⟩⟩
    rintro e t ⟨-, hatt, he⟩
    obtain ⟨hreq, hname⟩ := he e rfl
    apply (Leaves.note (.entering .emitting table)).bind_ok
    apply (Generation.makeClass_leaves g.dialect g.config e).bind
    · rintro f u ⟨-, rfl⟩
      have hatt' : (t ++ (⟨[], [], [.entering .emitting table]⟩ ++
          ⟨[], [], e.skipEvents g.dialect g.config⟩)).attempts = [] := by simp [hatt]
      refine ⟨?_, fun _ => hatt', fun _ _ => Trace.accepted_of_no_attempts hatt',
        by rintro b ⟨⟩⟩
      simp [hreq]
    rintro a u ⟨ha, rfl⟩
    apply (g.deliver_leaves a).mono
    intro r u hu
    rw [← Trace.append_assoc, ← Trace.append_assoc]
    refine TableTrace.of_delivery ?_ ?_ (hname ▸ classArtifact_className ha.symm) hu
    · simp [hreq]
    · simp [hatt]
  · exact fun _ _ h => h
  · rintro e t ⟨hreq, hoff, he, -⟩
    refine ⟨by simpa using hreq, fun h => by simpa using hoff h, fun f hf => ?_,
      by rintro b ⟨⟩⟩
    simpa [Trace.accepted] using he e rfl

/-! ## Without records -/

theorem incomingRelations_mirrors (g : Generator σ τ) (keys : List IncomingKey) :
    Mirrors (g.recorded.incomingRelations keys) (g.incomingRelations keys) := by
  unfold incomingRelations
  apply Mirrors.mapM
  intro k
  by_cases h : (Relation.ofIncoming g.config.parseConstraints k).field.isEmpty
  · simp only [recorded, h, if_true]
    exact (Mirrors.note _).bind fun _ => Mirrors.pure _
  · simp only [recorded, h]
    exact Mirrors.pure _

theorem readEntity_mirrors (g : Generator σ τ) (schema table : String) :
    Mirrors (g.recorded.readEntity schema table) (g.readEntity schema table) := by
  unfold readEntity
  apply (Mirrors.ask _ _ _).bind
  intro fields
  apply (Mirrors.ask _ _ _).bind
  intro outgoing
  apply (Mirrors.ask _ _ _).bind
  intro incoming
  exact (g.incomingRelations_mirrors incoming).bind fun _ => Mirrors.pure _

theorem makeClass_mirrors (d : Dialect) (c : Config) (e : Entity) :
    Mirrors (makeClass d c e : RecordedGeneration σ τ Artifact) (makeClass d c e) := by
  unfold makeClass
  cases ClassLayout.build d c e with
  | error f => exact Mirrors.fail f
  | ok l => exact (Mirrors.forM_note _ _).bind fun _ => Mirrors.pure _

theorem deliver_mirrors (g : Generator σ τ) (a : Artifact) :
    Mirrors (g.recorded.deliver a) (g.deliver a) := by
  unfold deliver
  by_cases h : g.config.saveAfterCreate
  · simp only [recorded, h, if_true]
    apply (Mirrors.write _ _).bind
    intro o
    exact (Mirrors.note _).bind fun _ => Mirrors.pure a
  · simp only [recorded, h]
    exact (Mirrors.note _).bind fun _ => Mirrors.pure a

theorem runTable_mirrors (g : Generator σ τ) (schema table : String) :
    Mirrors (g.recorded.runTable schema table) (g.runTable schema table) := by
  unfold runTable tableClass
  apply Mirrors.inSpan
  apply Mirrors.inSpan
  apply Mirrors.noteFailure
  apply (g.readEntity_mirrors schema table).bind
  intro e
  apply (Mirrors.note _).bind
  intro _
  exact (makeClass_mirrors _ _ e).bind g.deliver_mirrors

end Generator

end EntityClasses
