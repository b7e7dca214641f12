import EntityClasses.Proofs.Class.Ignored
import EntityClasses.Proofs.Type.Grammar

/-!
# Columns that cannot be typed

The first column that a dialect cannot type decides how a class fails, whatever else the entity
holds. A run meets it when all of the table is read and nothing is written yet: it fails in the same
way, and leaves notes and nothing else. None of them is about relations that are left out, since
these are told of a class that can be made.
-/
namespace EntityClasses

/-- The first of some columns that a dialect cannot type, and how it fails. -/
inductive FirstUntyped (d : Dialect) (col : Column) (f : Failure) : List Column → Prop
  | intro {before after : List Column} (typed : ∀ b ∈ before, ∃ t, b.typed d = .ok t)
      (untyped : col.typed d = .error f) : FirstUntyped d col f (before ++ col :: after)

namespace FirstUntyped

variable {d : Dialect} {col : Column} {f : Failure} {columns : List Column}

theorem mem (h : FirstUntyped d col f columns) : col ∈ columns := by
  cases h
  exact List.mem_append_right _ List.mem_cons_self

theorem error (h : FirstUntyped d col f columns) : col.typed d = .error f := by
  cases h
  assumption

/-- The failure tells the word that leads the declaration, and the declaration. -/
theorem unrecognized (h : FirstUntyped d col f columns) :
    ∃ word, Declared.Leads word col.declared.toList ∧
      f = .unrecognizedType (.ofList (word.map Char.toLower)) col.declared :=
  (Column.typed_eq_error_iff.1 h.error).2

end FirstUntyped

theorem typeColumns_eq_error_iff {d : Dialect} {columns : List Column} {f : Failure} :
    typeColumns d columns = .error f ↔ ∃ col, FirstUntyped d col f columns := by
  rw [typeColumns, mapM_eq_error_iff]
  constructor
  · rintro ⟨before, col, after, rfl, hbefore, hcol⟩
    exact ⟨col, .intro hbefore hcol⟩
  · rintro ⟨col, hbefore, hcol⟩
    exact ⟨_, col, _, rfl, hbefore, hcol⟩

theorem classArtifact_eq_error_iff {d : Dialect} {c : Config} {e : Entity} {f : Failure} :
    classArtifact d c e = .error f ↔ ∃ col, FirstUntyped d col f e.fields := by
  rw [← typeColumns_eq_error_iff]
  unfold classArtifact ClassLayout.build
  cases typeColumns d e.fields <;> simp [Except.map]

theorem classArtifact_fails_iff {d : Dialect} {c : Config} {e : Entity} :
    (∃ f, classArtifact d c e = .error f) ↔ ∃ col ∈ e.fields, ∃ f, col.typed d = .error f := by
  constructor
  · rintro ⟨f, hf⟩
    obtain ⟨col, hcol⟩ := classArtifact_eq_error_iff.1 hf
    exact ⟨col, hcol.mem, f, hcol.error⟩
  · rintro ⟨col, hcol, f, hf⟩
    cases h : classArtifact d c e with
    | error f => exact ⟨f, rfl⟩
    | ok a =>
        obtain ⟨l, hl, -⟩ := classArtifact_ok h
        obtain ⟨typed, htyped, -⟩ := ClassLayout.build_ok hl
        obtain ⟨t, ht⟩ := typeColumns_ok_iff.1 ⟨typed, htyped⟩ col hcol
        rw [hf] at ht
        cases ht

/-! ## In a run -/

/-- From the state `s` a catalog answers the three requests of a table in turn, and comes to the
state `t`. -/
inductive Catalog.Describes {σ : Type} (c : Catalog σ) (schema table : String) (s : σ)
    (columns : List Column) (outgoing : List OutgoingKey) (incoming : List IncomingKey) (t : σ) :
    Prop
  | intro {u v : σ} (first : c.ask (.columns schema table) s = (.ok columns, u))
      (second : c.ask (.outgoingKeys schema table) u = (.ok outgoing, v))
      (third : c.ask (.incomingKeys table) v = (.ok incoming, t)) :
      c.Describes schema table s columns outgoing incoming t

namespace Generator

open Generation

variable {σ τ : Type} (g : Generator σ τ)

theorem incomingRelations_apply (keys : List IncomingKey) (spans : List Span) (w : World σ τ) :
    g.incomingRelations keys spans w =
      (.ok (keys.map (.ofIncoming g.config.parseConstraints)),
        { w with journal := w.journal ++ (g.emptyFieldEvents keys).map (⟨·, spans⟩) }) := by
  let step : IncomingKey → Generation σ τ Relation := fun k => do
    let r := Relation.ofIncoming g.config.parseConstraints k
    if r.field.isEmpty then note (.emptyField k)
    return r
  have hstep : ∀ (k : IncomingKey) (w : World σ τ), step k spans w =
      (.ok (.ofIncoming g.config.parseConstraints k),
        { w with journal := w.journal ++ (g.emptyFieldEvents [k]).map (⟨·, spans⟩) }) := by
    intro k w
    by_cases h : (Relation.ofIncoming g.config.parseConstraints k).field.isEmpty
    · simp only [step, h, if_true, bind_apply, note_apply, pure_apply, emptyFieldEvents,
        List.filter_cons, List.filter_nil, List.map]
    · simp only [step, h, Bool.false_eq_true, if_false, pure_apply, emptyFieldEvents,
        List.filter_cons, List.filter_nil, List.map_nil, List.append_nil]
  change keys.mapM step spans w = _
  induction keys generalizing w with
  | nil =>
      simp only [emptyFieldEvents, List.filter_nil, List.map_nil, List.append_nil]
      rfl
  | cons k keys ih =>
      have hevents : g.emptyFieldEvents (k :: keys) =
          g.emptyFieldEvents [k] ++ g.emptyFieldEvents keys := by
        rw [emptyFieldEvents, emptyFieldEvents, emptyFieldEvents, ← List.map_append,
          ← List.filter_append, List.singleton_append]
      rw [List.mapM_cons]
      simp only [bind_apply, hstep, ih, pure_apply, hevents, List.map_append, List.map_cons,
        List.append_assoc]

/-- What is noted while a table is read. -/
def readingEvents (table : String) (incoming : List IncomingKey) : List Event :=
  [.entering .fetchingFields table, .entering .fetchingOwnRelations table,
    .entering .fetchingInverseRelations table] ++ g.emptyFieldEvents incoming

variable {g} {schema table : String} {columns : List Column} {outgoing : List OutgoingKey}
  {incoming : List IncomingKey}

theorem readEntity_apply {w : World σ τ} {s : σ}
    (h : g.catalog.Describes schema table w.catalog columns outgoing incoming s)
    (spans : List Span) : g.readEntity schema table spans w =
      (.ok ⟨table, columns, outgoing.map .ofOutgoing,
          incoming.map (.ofIncoming g.config.parseConstraints)⟩,
        ⟨s, w.sink, w.journal ++ (g.readingEvents table incoming).map (⟨·, spans⟩)⟩) := by
  obtain ⟨hcolumns, houtgoing, hincoming⟩ := h
  unfold readEntity
  simp only [bind_apply, ask_apply, hcolumns, houtgoing, hincoming, incomingRelations_apply,
    pure_apply, Except.mapError]
  simp [readingEvents, Request.target]

/-- A run fails as the class does, with the table read and the sink as it was. -/
theorem runTable_of_error {w : World σ τ} {s : σ} {f : Failure}
    (h : g.catalog.Describes schema table w.catalog columns outgoing incoming s)
    (hf : ∃ col, FirstUntyped g.dialect col f columns) :
    (g.runTable schema table).run w = (.error f, ⟨s, w.sink, w.journal ++
      (g.readingEvents table incoming ++ [Event.entering .emitting table, .tableFailed table f]).map
        (⟨·, [.schema schema g.dialect, .table table]⟩)⟩) := by
  obtain ⟨col, hcol⟩ := hf
  let e : Entity := ⟨table, columns, outgoing.map .ofOutgoing,
    incoming.map (.ofIncoming g.config.parseConstraints)⟩
  have hclass : classArtifact g.dialect g.config e = .error f :=
    classArtifact_eq_error_iff.2 ⟨col, hcol⟩
  have hskipped : e.skipEvents g.dialect g.config = [] :=
    Entity.skipEvents_of_untyped ⟨col, hcol.mem, f, hcol.error⟩
  have hsteps : (g.readEntity schema table >>= fun e => note (.entering .emitting table) >>= fun _ =>
      Generation.makeClass g.dialect g.config e >>= g.deliver)
        [.schema schema g.dialect, .table table] w =
      (.error f, ⟨s, w.sink, w.journal ++
        (g.readingEvents table incoming ++ [Event.entering .emitting table]).map
          (⟨·, [.schema schema g.dialect, .table table]⟩)⟩) := by
    simp only [bind_apply, readEntity_apply h, note_apply, makeClass_apply]
    rw [hclass, hskipped]
    simp
  refine Eq.trans (@noteFailure_error σ τ _ (.tableFailed table) _ _ _ _ _ hsteps) ?_
  simp

/-- A class fails exactly if a dialect cannot type a column, and it fails as the first such column
does: with the word that leads the declaration, and the declaration. A run whose catalog describes
such a table fails in the same way. The sink is as it was, and no relation is told of. -/
theorem first_untyped_decides (d : Dialect) (c : Config) (e : Entity) :
    ((∃ f, classArtifact d c e = .error f) ↔ ∃ col ∈ e.fields, ∃ f, col.typed d = .error f) ∧
    (∀ f, classArtifact d c e = .error f ↔ ∃ col, FirstUntyped d col f e.fields) ∧
    (∀ col f, FirstUntyped d col f e.fields → ∃ word, Declared.Leads word col.declared.toList ∧
      f = .unrecognizedType (.ofList (word.map Char.toLower)) col.declared) ∧
    ∀ {σ τ : Type} (g : Generator σ τ) (w : World σ τ) (schema table : String)
      (columns : List Column) (outgoing : List OutgoingKey) (incoming : List IncomingKey) (s : σ)
      (col : Column) (f : Failure),
      g.catalog.Describes schema table w.catalog columns outgoing incoming s →
      FirstUntyped g.dialect col f columns →
      ∃ entries : List Entry, (g.runTable schema table).run w =
          (.error f, ⟨s, w.sink, w.journal ++ entries⟩) ∧
        ∀ entry ∈ entries, ∀ name direction r, entry.event ≠ .skippedRelation name direction r := by
  refine ⟨classArtifact_fails_iff, fun f => classArtifact_eq_error_iff, fun col f h => h.unrecognized,
    ?_⟩
  intro σ τ g w schema table columns outgoing incoming s col f hdescribes hcol
  refine ⟨_, runTable_of_error hdescribes ⟨col, hcol⟩, ?_⟩
  rintro entry hentry name direction r hskipped
  obtain ⟨event, hevent, rfl⟩ := List.mem_map.1 hentry
  obtain rfl : event = .skippedRelation name direction r := hskipped
  simp [readingEvents, emptyFieldEvents] at hevent

end Generator

/-- The outline of a site is of a type that no dialect knows. -/
def siteColumns : List Column :=
  [⟨"id", "int", false⟩, ⟨"outline", "Geometry(Point)", true⟩]

/-- A catalog of sites, each with an owner in another database. -/
def sites : Catalog Unit where
  ask q s := match q with
    | .tables _ => (.ok ["sites"], s)
    | .columns _ _ => (.ok siteColumns, s)
    | .outgoingKeys _ _ => (.ok [⟨"people", "owners", "crm"⟩], s)
    | .incomingKeys _ => (.ok [], s)
    | .rows _ _ => (.ok [], s)

/-- A sink that counts its files. -/
def counting : Sink Nat where
  write _ n := (.ok .written, n + 1)
  notesSkipped := false

/-- The owners are of an ignored database, but no note tells so. -/
theorem first_untyped_decides_sites :
    let g : Generator Unit Nat := ⟨sites, counting, Config.default.ignore "crm", .php⟩
    let f : Failure := .unrecognizedType "geometry" "Geometry(Point)"
    g.catalog.Describes "geo" "sites" () siteColumns [⟨"people", "owners", "crm"⟩] [] () ∧
    FirstUntyped .php ⟨"outline", "Geometry(Point)", true⟩ f siteColumns ∧
    classArtifact .php g.config ⟨"sites", siteColumns, [], []⟩ = .error f ∧
    ∃ entries : List Entry, (g.runTable "geo" "sites").run ⟨(), 0, []⟩ = (.error f, ⟨(), 0, entries⟩) ∧
      ∀ entry ∈ entries, ∀ name direction r, entry.event ≠ .skippedRelation name direction r := by
  intro g f
  have hdescribes : g.catalog.Describes "geo" "sites" () siteColumns
      [⟨"people", "owners", "crm"⟩] [] () :=
    .intro rfl rfl rfl
  have hcol : FirstUntyped .php ⟨"outline", "Geometry(Point)", true⟩ f siteColumns := by
    have hid : Column.typed .php ⟨"id", "int", false⟩ = .ok ⟨"id", "int", none, false⟩ := by decide
    have houtline : Column.typed .php ⟨"outline", "Geometry(Point)", true⟩ = .error f := by decide
    exact .intro (List.forall_mem_singleton.2 ⟨_, hid⟩) houtline
  obtain ⟨-, hclass, -, hrun⟩ :=
    Generator.first_untyped_decides .php g.config ⟨"sites", siteColumns, [], []⟩
  exact ⟨hdescribes, hcol, (hclass f).2 ⟨_, hcol⟩,
    hrun g ⟨(), 0, []⟩ "geo" "sites" siteColumns _ [] () _ f hdescribes hcol⟩

end EntityClasses
