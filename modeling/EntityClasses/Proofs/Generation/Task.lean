import EntityClasses.Proofs.Generation.Sequence

/-!
# Tasks of a generator

The four ways to use a generator, and what its steps have in common. A step keeps a property of
worlds if each thing it does keeps it: noting an event, making a request in its stage, handing a file
to the sink. So a property that these keep holds at the end of every task; `Invariant` lists what is
to be shown.
-/
namespace EntityClasses

variable {σ τ α β : Type}

/-- What a generator is asked to do. -/
inductive Task
  | schema (schema : String)
  | table (schema table : String)
  | entity (schema table : String)
  | enumeration (schema table nameField valueField : String)

/-- The work of a task, whatever it makes. -/
def Generator.perform (g : Generator σ τ) : Task → Generation σ τ Unit
  | .schema schema => g.runSchema schema >>= fun _ => pure ()
  | .table schema table => g.runTable schema table >>= fun _ => pure ()
  | .entity schema table => g.readEntity schema table >>= fun _ => pure ()
  | .enumeration schema table nameField valueField =>
    g.runEnum schema table nameField valueField >>= fun _ => pure ()

/-- The kind of the request that is made in a stage. -/
def Stage.request? : Stage → Option RequestKind
  | connecting | emitting => none
  | listingTables => some .tables
  | fetchingFields | validatingFields => some .columns
  | fetchingOwnRelations => some .outgoingKeys
  | fetchingInverseRelations => some .incomingKeys
  | queryingRows => some .rows

/-- The stage that an event enters, with its target. -/
def Event.stage? : Event → Option (Stage × String)
  | entering stage target => some (stage, target)
  | _ => none

def World.noted (w : World σ τ) (entry : Entry) : World σ τ :=
  { w with journal := w.journal ++ [entry] }

/-- Whether the catalog or the connector refused. -/
def Failure.isQuery : Failure → Bool
  | query _ _ _ => true
  | _ => false

/-! ## Failures of a class or an enumeration that is not made -/

theorem ClassLayout.build_error {d : Dialect} {c : Config} {e : Entity} {f : Failure}
    (h : build d c e = .error f) : f.isQuery = false := by
  unfold build at h
  cases ht : typeColumns d e.fields with
  | ok columns =>
      rw [ht] at h
      cases h
  | error g =>
      rw [ht] at h
      cases h
      obtain ⟨_, col, _, -, -, hcol⟩ := mapM_eq_error_iff.1 ht
      unfold Column.typed at hcol
      split at hcol
      · cases hcol
      · cases hcol
        rfl

theorem enumArtifact_error {d : Dialect} {c : Config} {s : EnumSource} {f : Failure}
    (h : enumArtifact d c s = .error f) : f.isQuery = false := by
  unfold enumArtifact EnumLayout.build at h
  cases hrows : s.rows.mapM (EnumLayout.constant c s) with
  | ok constants =>
      rw [hrows] at h
      cases h
  | error g =>
      rw [hrows] at h
      cases h
      obtain ⟨_, row, _, -, -, hrow⟩ := mapM_eq_error_iff.1 hrows
      unfold EnumLayout.constant at hrow
      split at hrow
      · cases hrow
        rfl
      · cases hrow
        rfl
      · split at hrow
        · cases hrow
          rfl
        · cases hrow

namespace Generation

/-! ## Steps that keep a property -/

/-- From a world with the property `I` the step succeeds in a world with that property, or fails in
one that stands in the relation `E` to the failure. -/
def Keeps (I : World σ τ → Prop) (E : Failure → World σ τ → Prop) (x : Generation σ τ α) : Prop :=
  ∀ spans w, I w →
    match x spans w with
    | (.ok _, v) => I v
    | (.error f, v) => E f v

section Keeps

variable {I : World σ τ → Prop} {E : Failure → World σ τ → Prop}

theorem Keeps.pure (a : α) : Keeps I E (pure a : Generation σ τ α) :=
  fun _ _ hw => hw

theorem Keeps.fail {f : Failure} (h : ∀ w, I w → E f w) : Keeps I E (fail f : Generation σ τ α) :=
  fun _ w hw => h w hw

theorem Keeps.note {e : Event} (h : ∀ w spans, I w → I (w.noted ⟨e, spans⟩)) :
    Keeps I E (note e : Generation σ τ Unit) :=
  fun spans w hw => h w spans hw

theorem Keeps.bind {x : Generation σ τ α} {f : α → Generation σ τ β} (hx : Keeps I E x)
    (hf : ∀ a, Keeps I E (f a)) : Keeps I E (x >>= f) := by
  intro spans w hw
  have hv := hx spans w hw
  rw [bind_apply]
  rcases hr : x spans w with ⟨e | a, v⟩
  · rw [hr] at hv
    exact hv
  · rw [hr] at hv
    exact hf a spans v hv

theorem Keeps.inSpan {x : Generation σ τ α} (s : Span) (hx : Keeps I E x) :
    Keeps I E (inSpan s x) :=
  fun spans w hw => hx (spans ++ [s]) w hw

theorem Keeps.noteFailure {x : Generation σ τ α} {event : Failure → Event} (hx : Keeps I E x)
    (h : ∀ f w spans, E f w → E f (w.noted ⟨event f, spans⟩)) :
    Keeps I E (noteFailure event x) := by
  intro spans w hw
  have hv := hx spans w hw
  unfold Generation.noteFailure
  rcases hr : x spans w with ⟨e | a, v⟩
  · rw [hr] at hv
    exact h e v spans hv
  · rw [hr] at hv
    exact hv

theorem Keeps.mapM {f : α → Generation σ τ β} (hf : ∀ a, Keeps I E (f a)) (l : List α) :
    Keeps I E (l.mapM f) := by
  induction l with
  | nil => exact Keeps.pure []
  | cons a l ih =>
      rw [List.mapM_cons]
      exact (hf a).bind fun b => ih.bind fun bs => Keeps.pure (b :: bs)

theorem Keeps.forM_note {event : α → Event} (h : ∀ a w spans, I w → I (w.noted ⟨event a, spans⟩))
    (l : List α) : Keeps I E (l.forM fun a => Generation.note (event a) : Generation σ τ Unit) := by
  induction l with
  | nil => exact Keeps.pure ()
  | cons a l ih => exact (Keeps.note (h a)).bind fun _ => ih

theorem Keeps.ofResult {r : Except Failure α} (h : ∀ f w, r = .error f → I w → E f w) :
    Keeps I E (ofResult r : Generation σ τ α) := by
  cases r with
  | ok a => exact Keeps.pure a
  | error f => exact Keeps.fail fun w hw => h f w rfl hw

end Keeps

end Generation

open Generation

namespace Generator

/-- What the tasks of a generator do keeps `I`, or ends in a failure that stands in the relation `E`
to the world. A request is made in its stage, and the stage is noted first. -/
structure Invariant (g : Generator σ τ) (I : World σ τ → Prop)
    (E : Failure → World σ τ → Prop) : Prop where
  note : ∀ w event spans, (∀ p, event.stage? = some p → p.1 = .emitting) → I w →
    I (w.noted ⟨event, spans⟩)
  ask : ∀ w spans stage q, stage.request? = some q.kind → I w →
    match g.catalog.ask q w.catalog with
    | (.ok _, s) => I ⟨s, w.sink, w.journal ++ [⟨.entering stage q.target, spans⟩]⟩
    | (.error reason, s) => E (.query stage q.target reason)
        ⟨s, w.sink, w.journal ++ [⟨.entering stage q.target, spans⟩]⟩
  write : ∀ w (a : Artifact), g.config.saveAfterCreate = true → I w →
    match g.sink.write (a.toRequest g.config) w.sink with
    | (.ok _, t) => I { w with sink := t }
    | (.error f, t) => E f { w with sink := t }
  reject : ∀ w f, f.isQuery = false → I w → E f w
  tableFailed : ∀ w f table spans, E f w → E f (w.noted ⟨.tableFailed table f, spans⟩)

variable {g : Generator σ τ} {I : World σ τ → Prop} {E : Failure → World σ τ → Prop}

namespace Invariant

theorem noted (h : g.Invariant I E) {event : Event} (hevent : event.stage? = none) (w : World σ τ)
    (spans : List Span) (hw : I w) : I (w.noted ⟨event, spans⟩) := by
  apply h.note w event spans _ hw
  intro p hp
  rw [hevent] at hp
  cases hp

theorem keeps_note (h : g.Invariant I E) {event : Event} (hevent : event.stage? = none) :
    Keeps I E (Generation.note event : Generation σ τ Unit) :=
  Keeps.note (h.noted hevent)

theorem keeps_ask (h : g.Invariant I E) {stage : Stage} {q : Request}
    (hstage : stage.request? = some q.kind) : Keeps I E (Generation.ask g.catalog stage q) := by
  intro spans w hw
  have hq := h.ask w spans stage q hstage hw
  rw [ask_apply]
  rcases hr : g.catalog.ask q w.catalog with ⟨_ | _, s⟩
  · rw [hr] at hq
    exact hq
  · rw [hr] at hq
    exact hq

theorem keeps_write (h : g.Invariant I E) (a : Artifact) (hs : g.config.saveAfterCreate = true) :
    Keeps I E (Generation.write g.sink (a.toRequest g.config)) := by
  unfold Generation.write
  apply Keeps.bind
  · intro spans w hw
    have hv := h.write w a hs hw
    rcases hr : g.sink.write (a.toRequest g.config) w.sink with ⟨f | o, t⟩
    · simpa only [hr] using hv
    · simpa only [hr] using hv
  · intro o
    by_cases ho : g.sink.notesSkipped ∧ o = .skipped
    · rw [if_pos ho]
      exact (h.keeps_note rfl).bind fun _ => Keeps.pure o
    · rw [if_neg ho]
      exact Keeps.pure o

theorem keeps_incomingRelations (h : g.Invariant I E) (keys : List IncomingKey) :
    Keeps I E (g.incomingRelations keys) := by
  unfold incomingRelations
  apply Keeps.mapM
  intro k
  by_cases hk : (Relation.ofIncoming g.config.parseConstraints k).field.isEmpty
  · simp only [hk, if_true]
    exact (h.keeps_note rfl).bind fun _ => Keeps.pure _
  · simp only [hk]
    exact Keeps.pure _

theorem keeps_readEntity (h : g.Invariant I E) (schema table : String) :
    Keeps I E (g.readEntity schema table) := by
  unfold readEntity
  apply (h.keeps_ask rfl).bind
  intro fields
  apply (h.keeps_ask rfl).bind
  intro outgoing
  apply (h.keeps_ask rfl).bind
  intro incoming
  exact (h.keeps_incomingRelations incoming).bind fun _ => Keeps.pure _

theorem keeps_makeClass (h : g.Invariant I E) (e : Entity) :
    Keeps I E (makeClass g.dialect g.config e : Generation σ τ Artifact) := by
  unfold makeClass
  apply (Keeps.ofResult fun f w hf => h.reject w f (ClassLayout.build_error hf)).bind
  intro l
  apply (Keeps.forM_note (fun _ => h.noted rfl) (e.ignored g.config)).bind
  exact fun _ => Keeps.pure _

theorem keeps_deliver (h : g.Invariant I E) (a : Artifact) : Keeps I E (g.deliver a) := by
  unfold deliver
  by_cases hs : g.config.saveAfterCreate
  · simp only [hs, if_true]
    apply (h.keeps_write a hs).bind
    intro o
    exact (h.keeps_note rfl).bind fun _ => Keeps.pure a
  · simp only [hs]
    exact (h.keeps_note rfl).bind fun _ => Keeps.pure a

theorem keeps_emitting (h : g.Invariant I E) (table : String) :
    Keeps I E (Generation.note (.entering .emitting table) : Generation σ τ Unit) := by
  apply Keeps.note
  intro w spans
  apply h.note
  rintro p ⟨⟩
  rfl

theorem keeps_runTable (h : g.Invariant I E) (schema table : String) :
    Keeps I E (g.runTable schema table) := by
  unfold runTable tableClass
  apply Keeps.inSpan
  apply Keeps.inSpan
  refine Keeps.noteFailure ?_ fun f w spans => h.tableFailed w f table spans
  apply (h.keeps_readEntity schema table).bind
  intro e
  apply (h.keeps_emitting table).bind
  intro _
  exact (h.keeps_makeClass e).bind h.keeps_deliver

theorem keeps_runSchema (h : g.Invariant I E) (schema : String) :
    Keeps I E (g.runSchema schema) := by
  rw [runSchema_eq]
  apply ((h.keeps_ask rfl).inSpan _).bind
  intro tables
  apply (Keeps.mapM (h.keeps_runTable schema) tables).bind
  intro artifacts
  exact ((h.keeps_note rfl).inSpan _).bind fun _ => Keeps.pure artifacts

theorem keeps_requireField (h : g.Invariant I E) (table : String) (columns : List Column)
    (field : String) : Keeps I E (requireField table columns field : Generation σ τ Unit) := by
  unfold requireField
  split
  · exact Keeps.pure ()
  · exact Keeps.fail fun w => h.reject w _ rfl

theorem keeps_runEnum (h : g.Invariant I E) (schema table nameField valueField : String) :
    Keeps I E (g.runEnum schema table nameField valueField) := by
  unfold runEnum
  apply Keeps.inSpan
  apply (h.keeps_ask rfl).bind
  intro columns
  apply (h.keeps_requireField table columns nameField).bind
  intro _
  apply (h.keeps_requireField table columns valueField).bind
  intro _
  apply (h.keeps_ask rfl).bind
  intro rows
  apply (h.keeps_emitting table).bind
  intro _
  apply (Keeps.ofResult fun f w hf => h.reject w f (enumArtifact_error hf)).bind
  exact h.keeps_deliver

/-- A task keeps what noting, asking and writing keep. -/
theorem keeps_perform (h : g.Invariant I E) (task : Task) : Keeps I E (g.perform task) := by
  cases task with
  | schema schema => exact (h.keeps_runSchema schema).bind fun _ => Keeps.pure ()
  | table schema table => exact (h.keeps_runTable schema table).bind fun _ => Keeps.pure ()
  | entity schema table => exact (h.keeps_readEntity schema table).bind fun _ => Keeps.pure ()
  | enumeration schema table nameField valueField =>
      exact (h.keeps_runEnum schema table nameField valueField).bind fun _ => Keeps.pure ()

end Invariant

/-! ## Tasks with and without records -/

theorem runEnum_mirrors (g : Generator σ τ) (schema table nameField valueField : String) :
    Mirrors (g.recorded.runEnum schema table nameField valueField)
      (g.runEnum schema table nameField valueField) := by
  unfold runEnum
  have hrequire (columns : List Column) (field : String) :
      Mirrors (requireField table columns field : RecordedGeneration σ τ Unit)
        (requireField table columns field) := by
    unfold requireField
    split
    · exact Mirrors.pure ()
    · exact Mirrors.fail _
  apply Mirrors.inSpan
  apply (Mirrors.ask _ _ _).bind
  intro columns
  apply (hrequire columns nameField).bind
  intro _
  apply (hrequire columns valueField).bind
  intro _
  apply (Mirrors.ask _ _ _).bind
  intro rows
  apply (Mirrors.note _).bind
  intro _
  refine Mirrors.bind ?_ g.deliver_mirrors
  cases h : enumArtifact g.dialect g.config ⟨table, rows, nameField, valueField⟩ with
  | ok a =>
      simp only [recorded, h]
      exact Mirrors.pure a
  | error f =>
      simp only [recorded, h]
      exact Mirrors.fail f

theorem perform_mirrors (g : Generator σ τ) (task : Task) :
    Mirrors (g.recorded.perform task) (g.perform task) := by
  cases task with
  | schema schema => exact (g.runSchema_mirrors schema).bind fun _ => Mirrors.pure ()
  | table schema table => exact (g.runTable_mirrors schema table).bind fun _ => Mirrors.pure ()
  | entity schema table => exact (g.readEntity_mirrors schema table).bind fun _ => Mirrors.pure ()
  | enumeration schema table nameField valueField =>
      exact (g.runEnum_mirrors schema table nameField valueField).bind fun _ => Mirrors.pure ()

end Generator

end EntityClasses
