import EntityClasses.Proofs.Generation.Table

/-!
# Schemas as sequences of tables

A run over a schema lists its tables and then makes them one after the other, each as a run of its
own would, until one fails. The catalog gets no request and the sink no file beyond the failure,
and all that the tables before it were made into stays with the sink.
-/
namespace EntityClasses

variable {σ τ α β : Type}

namespace Generation

/-- The steps for the members of a list succeed one after the other, from one world to another. -/
inductive InTurn (f : α → Generation σ τ β) : World σ τ → List α → List β → World σ τ → Prop
  | nil (w : World σ τ) : InTurn f w [] [] w
  | cons {w v u : World σ τ} {a : α} {b : β} {l : List α} {bs : List β}
      (h : (f a).run w = (.ok b, v)) (rest : InTurn f v l bs u) : InTurn f w (a :: l) (b :: bs) u

/-- Steps for the members of a list all succeed, or the first that fails decides the result. -/
theorem run_mapM (f : α → Generation σ τ β) (l : List α) (w : World σ τ) :
    (∃ bs u, InTurn f w l bs u ∧ run (l.mapM f) w = (.ok bs, u)) ∨
      ∃ before a after bs u e x, l = before ++ a :: after ∧ InTurn f w before bs u ∧
        (f a).run u = (.error e, x) ∧ run (l.mapM f) w = (.error e, x) := by
  induction l generalizing w with
  | nil => exact .inl ⟨[], w, .nil w, rfl⟩
  | cons a l ih =>
      rw [List.mapM_cons]
      rcases ha : (f a).run w with ⟨e | b, v⟩
      · refine .inr ⟨[], a, l, [], w, e, v, rfl, .nil w, ha, ?_⟩
        simp only [run] at ha
        simp only [run, bind_apply, ha]
      · rcases ih v with ⟨bs, u, hin, hrun⟩ | ⟨before, c, after, bs, u, e, x, rfl, hin, hc, hrun⟩
        · refine .inl ⟨b :: bs, u, .cons ha hin, ?_⟩
          simp only [run] at ha hrun
          simp only [run, bind_apply, ha, hrun]
          rfl
        · refine .inr ⟨a :: before, c, after, b :: bs, u, e, x, rfl, .cons ha hin, hc, ?_⟩
          simp only [run] at ha hrun
          simp only [run, bind_apply, ha, hrun]

end Generation

namespace Generator

open Generation

def listTables (g : Generator σ τ) (schema : String) : Generation σ τ (List String) :=
  inSpan (.schema schema g.dialect) (ask g.catalog .listingTables (.tables schema))

/-- Notes that all tables of a schema are made. -/
def close (g : Generator σ τ) (schema : String) (count : Nat) : Generation σ τ Unit :=
  inSpan (.schema schema g.dialect) (note (.schemaDone count))

theorem runSchema_eq (g : Generator σ τ) (schema : String) :
    g.runSchema schema = (do
      let tables ← g.listTables schema
      let artifacts ← List.mapM (g.runTable schema) tables
      g.close schema artifacts.length
      return artifacts) := by
  simp only [runSchema, inSpan_bind, inSpan_mapM]
  rfl

theorem listTables_leaves (g : Generator σ τ) (schema : String) :
    Leaves (g.recorded.listTables schema) fun _ t => t.requests = [.tables schema] ∧
      t.attempts = [] := by
  apply Leaves.inSpan
  apply (Leaves.ask g.catalog .listingTables (.tables schema)).mono
  rintro r t ⟨rfl, -⟩
  exact ⟨rfl, rfl⟩

theorem runSchema_mirrors (g : Generator σ τ) (schema : String) :
    Mirrors (g.recorded.runSchema schema) (g.runSchema schema) := by
  rw [runSchema_eq, runSchema_eq]
  apply ((Mirrors.ask _ _ _).inSpan _).bind
  intro tables
  apply (Mirrors.mapM (g.runTable_mirrors schema) tables).bind
  intro artifacts
  exact ((Mirrors.note _).inSpan _).bind fun _ => Mirrors.pure artifacts

theorem deliveries_cons (c : Config) (a : Artifact) (artifacts : List Artifact) :
    c.deliveries (a :: artifacts) = c.deliveries [a] ++ c.deliveries artifacts := by
  by_cases h : c.saveAfterCreate <;> simp [Config.deliveries, h]

/-- Tables made in turn have asked all their requests, and the sink has taken each class. -/
theorem inTurn_trace {g : Generator σ τ} {schema : String} {w u : RecordedWorld σ τ}
    {tables : List String} {artifacts : List Artifact}
    (h : InTurn (g.recorded.runTable schema) w tables artifacts u) :
    ∃ t, u.trace = w.trace ++ t ∧ t.requests = tables.flatMap (tableRequests schema) ∧
      t.accepted = g.config.deliveries artifacts ∧
      (g.config.saveAfterCreate = false → t.attempts = []) ∧
      artifacts.map (·.className) = tables.map g.config.classFor := by
  induction h with
  | nil w =>
      refine ⟨.empty, (Trace.append_empty _).symm, rfl, ?_, fun _ => rfl, rfl⟩
      simp [Trace.accepted, Trace.empty, Config.deliveries]
  | @cons w v u table a tables artifacts h rest ih =>
      obtain ⟨t, ht, htable⟩ := g.runTable_leaves schema table [] w
      simp only [run] at h
      rw [h] at ht htable
      obtain ⟨hreq, hacc, hclass⟩ := htable.made a rfl
      obtain ⟨q, hq, hreqs, haccs, hoff, hclasses⟩ := ih
      refine ⟨t ++ q, ?_, ?_, ?_, ?_, ?_⟩
      · rw [hq, ht, Trace.append_assoc]
      · simp [hreq, hreqs]
      · rw [Trace.accepted_append, hacc, haccs, ← deliveries_cons]
      · intro hs
        simp [htable.unsaved hs, hoff hs]
      · simp [hclass, hclasses]

section

variable {g : Generator σ τ} {schema : String} {w v u : RecordedWorld σ τ} {f : Failure}

/-- Without a listing nothing else is done. -/
theorem runSchema_unlisted (hl : (g.recorded.listTables schema).run w = (.error f, v)) :
    (g.recorded.runSchema schema).run w = (.error f, v) ∧
      ∃ t, v.trace = w.trace ++ t ∧ t.requests = [.tables schema] ∧ t.attempts = [] := by
  obtain ⟨t, ht, hasked, hatt⟩ := g.listTables_leaves schema [] w
  simp only [run] at hl
  rw [hl] at ht
  refine ⟨?_, t, ht, hasked, hatt⟩
  rw [runSchema_eq]
  simp only [run, bind_apply, hl]

theorem runSchema_made {tables : List String} {artifacts : List Artifact}
    (hl : (g.recorded.listTables schema).run w = (.ok tables, v))
    (hin : InTurn (g.recorded.runTable schema) v tables artifacts u)
    (hrun : run (tables.mapM (g.recorded.runTable schema)) v = (.ok artifacts, u)) :
    ∃ x t, (g.recorded.runSchema schema).run w = (.ok artifacts, x) ∧
      (g.recorded.close schema artifacts.length).run u = (.ok (), x) ∧ x.trace = w.trace ++ t ∧
      (g.config.saveAfterCreate = false → t.attempts = []) ∧
      t.requests = .tables schema :: tables.flatMap (tableRequests schema) ∧
      t.accepted = g.config.deliveries artifacts := by
  obtain ⟨t, ht, hasked, hatt⟩ := g.listTables_leaves schema [] w
  obtain ⟨q, hq, hreqs, haccs, hoff, -⟩ := inTurn_trace hin
  obtain ⟨p, hp, hclose, rfl⟩ := Leaves.note (.schemaDone artifacts.length)
    ([] ++ [.schema schema g.recorded.dialect]) u
  simp only [run] at hl hrun
  rw [hl] at ht
  refine ⟨((g.recorded.close schema artifacts.length).run u).2,
    t ++ q ++ ⟨[], [], [.schemaDone artifacts.length]⟩, ?_, Prod.ext hclose rfl, ?_, ?_, ?_, ?_⟩
  · rw [runSchema_eq]
    simp only [run, bind_apply, hl, hrun]
    rfl
  · rw [close, run, Generation.inSpan, hp, hq, ht]
    simp only [Trace.append_assoc]
  · intro hs
    simp [hatt, hoff hs]
  · simp [hasked, hreqs]
  · rw [Trace.accepted_append, Trace.accepted_append, haccs, Trace.accepted_of_no_attempts hatt]
    simp [Trace.accepted]

theorem runSchema_failed {before after : List String} {table : String} {artifacts : List Artifact}
    {x : RecordedWorld σ τ}
    (hl : (g.recorded.listTables schema).run w = (.ok (before ++ table :: after), v))
    (hin : InTurn (g.recorded.runTable schema) v before artifacts u)
    (htable : (g.recorded.runTable schema table).run u = (.error f, x))
    (hrun : run ((before ++ table :: after).mapM (g.recorded.runTable schema)) v = (.error f, x)) :
    (g.recorded.runSchema schema).run w = (.error f, x) ∧
      ∃ t asked, x.trace = w.trace ++ t ∧ (g.config.saveAfterCreate = false → t.attempts = []) ∧
        t.requests = .tables schema :: before.flatMap (tableRequests schema) ++ asked ∧
        asked <+: tableRequests schema table ∧ t.accepted = g.config.deliveries artifacts := by
  obtain ⟨t, ht, hasked, hatt⟩ := g.listTables_leaves schema [] w
  obtain ⟨q, hq, hreqs, haccs, hoff, -⟩ := inTurn_trace hin
  obtain ⟨p, hp, hfail⟩ := g.runTable_leaves schema table [] u
  simp only [run] at hl htable hrun
  rw [hl] at ht
  rw [htable] at hp hfail
  refine ⟨?_, t ++ q ++ p, p.requests, ?_, ?_, ?_, hfail.asked, ?_⟩
  · rw [runSchema_eq]
    simp only [run, bind_apply, hl, hrun]
  · rw [hp, hq, ht]
    simp only [Trace.append_assoc]
  · intro hs
    simp [hatt, hoff hs, hfail.unsaved hs]
  · simp [hasked, hreqs]
  · rw [Trace.accepted_append, Trace.accepted_append, haccs, hfail.failed f rfl,
      Trace.accepted_of_no_attempts hatt, List.append_nil, List.nil_append]

end

/-- A run over a schema is its listing and then the runs of the listed tables in turn, up to the
first that fails. A failure is that of the listing or of one table, in the world that the tables
before it have reached; the catalog has then had no request for a table behind it, and the sink has
taken the classes of the tables before it and no others. -/
theorem runSchema_in_turn (g : Generator σ τ) (schema : String) (w : RecordedWorld σ τ) :
    g.runSchema schema = (do
      let tables ← g.listTables schema
      let artifacts ← List.mapM (g.runTable schema) tables
      g.close schema artifacts.length
      return artifacts) ∧
    Mirrors (g.recorded.runSchema schema) (g.runSchema schema) ∧
    ∃ r x t, (g.recorded.runSchema schema).run w = (r, x) ∧ x.trace = w.trace ++ t ∧
      (g.config.saveAfterCreate = false → t.attempts = []) ∧
      ((∃ f, (g.recorded.listTables schema).run w = (.error f, x) ∧ r = .error f ∧
          t.requests = [.tables schema] ∧ t.attempts = []) ∨
        (∃ tables v artifacts u, (g.recorded.listTables schema).run w = (.ok tables, v) ∧
          InTurn (g.recorded.runTable schema) v tables artifacts u ∧
          (g.recorded.close schema artifacts.length).run u = (.ok (), x) ∧ r = .ok artifacts ∧
          artifacts.map (·.className) = tables.map g.config.classFor ∧
          t.requests = .tables schema :: tables.flatMap (tableRequests schema) ∧
          t.accepted = g.config.deliveries artifacts) ∨
        ∃ before table after v artifacts u f asked,
          (g.recorded.listTables schema).run w = (.ok (before ++ table :: after), v) ∧
          InTurn (g.recorded.runTable schema) v before artifacts u ∧
          (g.recorded.runTable schema table).run u = (.error f, x) ∧ r = .error f ∧
          t.requests = .tables schema :: before.flatMap (tableRequests schema) ++ asked ∧
          asked <+: tableRequests schema table ∧
          t.accepted = g.config.deliveries artifacts) := by
  refine ⟨g.runSchema_eq schema, g.runSchema_mirrors schema, ?_⟩
  rcases hl : (g.recorded.listTables schema).run w with ⟨f | tables, v⟩
  · obtain ⟨hschema, t, ht, hasked, hatt⟩ := runSchema_unlisted hl
    exact ⟨.error f, v, t, hschema, ht, fun _ => hatt, .inl ⟨f, rfl, rfl, hasked, hatt⟩⟩
  rcases run_mapM (g.recorded.runTable schema) tables v with
    ⟨artifacts, u, hin, hrun⟩ | ⟨before, table, after, artifacts, u, f, x, rfl, hin, htable, hrun⟩
  · obtain ⟨-, -, -, -, -, hclasses⟩ := inTurn_trace hin
    obtain ⟨x, t, hschema, hclose, ht, hoff, hreqs, haccs⟩ := runSchema_made hl hin hrun
    refine ⟨.ok artifacts, x, t, hschema, ht, hoff, .inr (.inl ?_)⟩
    exact ⟨tables, v, artifacts, u, rfl, hin, hclose, rfl, hclasses, hreqs, haccs⟩
  · obtain ⟨hschema, t, asked, ht, hoff, hreqs, hprefix, haccs⟩ :=
      runSchema_failed hl hin htable hrun
    refine ⟨.error f, x, t, hschema, ht, hoff, .inr (.inr ?_)⟩
    exact ⟨before, table, after, v, artifacts, u, f, asked, rfl, hin, htable, rfl, hreqs, hprefix,
      haccs⟩

end Generator

end EntityClasses
