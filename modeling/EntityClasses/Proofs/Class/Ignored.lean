import EntityClasses.Proofs.Generation.Table
import EntityClasses.Proofs.SortedMap

/-!
# Relations of ignored databases

A relation of an ignored database leaves nothing behind in a class: the class is that of the entity
without such relations, written with no database ignored. What tells of the relation is one note,
made if the types of all columns are recognized.
-/
namespace EntityClasses

namespace Config

/-- The settings with no database ignored. -/
def ignoringNone (c : Config) : Config :=
  { c with ignoredDatabases := .empty }

theorem keeps_ignoringNone (c : Config) (r : Relation) : c.ignoringNone.keeps r = true := rfl

theorem ignores_eq (c : Config) (database : String) :
    c.ignores database = decide (database ∈ c.ignoredDatabases.keys) := by
  rw [Bool.eq_iff_iff, decide_eq_true_iff]
  exact SortedMap.contains_iff_mem_keys

theorem keeps_eq (c : Config) (r : Relation) :
    c.keeps r = decide (r.database ∉ c.ignoredDatabases.keys) := by
  rw [keeps, ignores_eq, decide_not]

end Config

namespace Entity

/-- The entity without the relations that belong to an ignored database. -/
def withoutIgnored (e : Entity) (c : Config) : Entity :=
  { e with
    outgoing := e.outgoing.filter fun r => r.database ∉ c.ignoredDatabases.keys
    incoming := e.incoming.filter fun r => r.database ∉ c.ignoredDatabases.keys }

theorem keptOutgoing_withoutIgnored (e : Entity) (c : Config) :
    (e.withoutIgnored c).keptOutgoing c.ignoringNone = e.keptOutgoing c := by
  unfold keptOutgoing
  rw [List.filter_eq_self.2 fun r _ => c.keeps_ignoringNone r]
  exact List.filter_congr fun r _ => (c.keeps_eq r).symm

theorem keptIncoming_withoutIgnored (e : Entity) (c : Config) :
    (e.withoutIgnored c).keptIncoming c.ignoringNone = e.keptIncoming c := by
  unfold keptIncoming
  rw [List.filter_eq_self.2 fun r _ => c.keeps_ignoringNone r]
  exact List.filter_congr fun r _ => (c.keeps_eq r).symm

theorem kept_withoutIgnored (e : Entity) (c : Config) :
    (e.withoutIgnored c).kept c.ignoringNone = e.kept c := by
  rw [kept, keptOutgoing_withoutIgnored, keptIncoming_withoutIgnored, kept]

end Entity

namespace ClassLayout

theorem build_withoutIgnored (d : Dialect) (c : Config) (e : Entity) :
    build d c.ignoringNone (e.withoutIgnored c) = build d c e := by
  have hlayout : ofColumns d c.ignoringNone (e.withoutIgnored c) = ofColumns d c e := by
    funext columns
    unfold ofColumns dependenciesOf
    rw [e.keptOutgoing_withoutIgnored, e.keptIncoming_withoutIgnored, e.kept_withoutIgnored]
    rfl
  unfold build
  rw [hlayout]
  rfl

/-- How a layout is written does not depend on the ignored databases. -/
theorem artifact_ignoringNone (d : Dialect) (c : Config) (l : ClassLayout) :
    l.artifact d c.ignoringNone = l.artifact d c := by
  cases d <;> rfl

end ClassLayout

theorem classArtifact_withoutIgnored (d : Dialect) (c : Config) (e : Entity) :
    classArtifact d c.ignoringNone (e.withoutIgnored c) = classArtifact d c e := by
  unfold classArtifact
  rw [ClassLayout.build_withoutIgnored]
  cases ClassLayout.build d c e with
  | error f => rfl
  | ok l => exact congrArg Except.ok (l.artifact_ignoringNone d c)

theorem classArtifact_congr {d : Dialect} {c : Config} {e f : Entity}
    (h : f.withoutIgnored c = e.withoutIgnored c) : classArtifact d c f = classArtifact d c e := by
  rw [← classArtifact_withoutIgnored, h, classArtifact_withoutIgnored]

/-! ## What is noted -/

theorem Entity.ignored_events (e : Entity) (c : Config) :
    ((e.ignored c).map fun p => Event.skippedRelation e.name p.1 p.2) =
      (e.outgoing.filter fun r => r.database ∈ c.ignoredDatabases.keys).map
          (.skippedRelation e.name .outgoing) ++
        (e.incoming.filter fun r => r.database ∈ c.ignoredDatabases.keys).map
          (.skippedRelation e.name .incoming) := by
  simp only [ignored, Config.keeps, Config.ignores_eq, Bool.not_not, List.map_append, List.map_map]
  rfl

theorem Entity.level_of_skipEvents {e : Entity} {d : Dialect} {c : Config} {event : Event}
    (h : event ∈ e.skipEvents d c) : event.level = .info := by
  unfold skipEvents at h
  split at h
  · obtain ⟨p, -, rfl⟩ := List.mem_map.1 h
    rfl
  · cases h

/-- The relations left out are noted exactly if all column types are recognized. -/
theorem Entity.skipEvents_of_typed {e : Entity} {d : Dialect} {c : Config}
    (h : ∀ col ∈ e.fields, ∃ t, col.typed d = .ok t) :
    e.skipEvents d c = (e.ignored c).map fun p => .skippedRelation e.name p.1 p.2 := by
  obtain ⟨typed, ht⟩ := typeColumns_ok_iff.2 h
  unfold skipEvents ClassLayout.build
  rw [ht]
  rfl

theorem Entity.skipEvents_of_untyped {e : Entity} {d : Dialect} {c : Config}
    (h : ∃ col ∈ e.fields, ∃ f, col.typed d = .error f) : e.skipEvents d c = [] := by
  obtain ⟨col, hcol, f, hf⟩ := h
  unfold skipEvents
  cases hb : ClassLayout.build d c e with
  | error g => rfl
  | ok l =>
      obtain ⟨typed, htyped, -⟩ := ClassLayout.build_ok hb
      obtain ⟨t, ht⟩ := typeColumns_ok_iff.1 ⟨typed, htyped⟩ col hcol
      rw [hf] at ht
      cases ht

namespace Generation

variable {σ τ α : Type}

theorem pure_apply (a : α) (spans : List Span) (w : World σ τ) :
    (pure a : Generation σ τ α) spans w = (.ok a, w) := rfl

theorem forM_note_apply (event : α → Event) (l : List α) (spans : List Span) (w : World σ τ) :
    (l.forM fun a => note (event a) : Generation σ τ Unit) spans w =
      (.ok (), { w with journal := w.journal ++ (l.map event).map (⟨·, spans⟩) }) := by
  induction l generalizing w with
  | nil =>
      rw [List.map_nil, List.map_nil, List.append_nil]
      rfl
  | cons a l ih =>
      have hcons : ((a :: l).forM fun a => note (event a) : Generation σ τ Unit) =
          note (event a) >>= fun _ => l.forM fun a => note (event a) := rfl
      rw [hcons, bind_apply]
      simp only [note, ih]
      simp

theorem makeClass_apply (d : Dialect) (c : Config) (e : Entity) (spans : List Span)
    (w : World σ τ) : makeClass d c e spans w =
      (classArtifact d c e,
        { w with journal := w.journal ++ (e.skipEvents d c).map (⟨·, spans⟩) }) := by
  unfold makeClass classArtifact Entity.skipEvents
  cases ClassLayout.build d c e with
  | error f =>
      rw [List.map_nil, List.append_nil]
      rfl
  | ok l =>
      have hnotes := forM_note_apply (fun p => .skippedRelation e.name p.1 p.2) (e.ignored c) spans w
      simp only [ofResult, bind_apply, pure_apply, hnotes]
      rfl

/-- A class is that of the entity without its relations of ignored databases, written with no
database ignored; so entities that differ in such relations alone give one class. Each such relation
is noted once, outgoing ones first, or none is, if the type of a column is not recognized. -/
theorem makeClass_withoutIgnored (d : Dialect) (c : Config) (e : Entity) (spans : List Span)
    (w : World σ τ) :
    (∀ v : World σ τ, (makeClass d c e spans w).1 =
      (makeClass d c.ignoringNone (e.withoutIgnored c) spans v).1) ∧
    (∀ f : Entity, f.withoutIgnored c = e.withoutIgnored c →
      ∀ v : World σ τ, (makeClass d c f spans v).1 = (makeClass d c e spans w).1) ∧
    ∃ events : List Event, (makeClass d c e spans w).2 =
        { w with journal := w.journal ++ events.map (⟨·, spans⟩) } ∧
      (∀ event ∈ events, event.level = .info) ∧
      ((∀ col ∈ e.fields, ∃ t, col.typed d = .ok t) → events =
        (e.outgoing.filter fun r => r.database ∈ c.ignoredDatabases.keys).map
            (.skippedRelation e.name .outgoing) ++
          (e.incoming.filter fun r => r.database ∈ c.ignoredDatabases.keys).map
            (.skippedRelation e.name .incoming)) ∧
      ((∃ col ∈ e.fields, ∃ f, col.typed d = .error f) → events = []) := by
  refine ⟨?_, ?_, e.skipEvents d c, ?_, ?_, ?_, Entity.skipEvents_of_untyped⟩
  · intro v
    rw [makeClass_apply, makeClass_apply, classArtifact_withoutIgnored]
  · intro f hf v
    rw [makeClass_apply, makeClass_apply, classArtifact_congr hf]
  · rw [makeClass_apply]
  · intro event h
    exact Entity.level_of_skipEvents h
  · intro h
    rw [Entity.skipEvents_of_typed h, e.ignored_events]

end Generation

end EntityClasses
