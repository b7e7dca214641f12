import EntityClasses.Proofs.Generation.Task

/-!
# Stages of a run

A run notes each stage that it enters. The stages of its requests stand in the journal in the order
of the requests; a refused request is the last, and the failure names its stage. A table goes
through its four stages, or through the first of them, and a table that fails is noted as an error
at the end of the run; nothing else is.
-/
namespace EntityClasses

variable {σ τ α β : Type}

/-! ## The stages of a trace -/

namespace Trace

def stages (t : Trace) : List (Stage × String) :=
  t.events.filterMap Event.stage?

def errors (t : Trace) : List Event :=
  t.events.filter (·.level = .error)

@[simp] theorem stages_append (t u : Trace) : (t ++ u).stages = t.stages ++ u.stages :=
  List.filterMap_append

@[simp] theorem errors_append (t u : Trace) : (t ++ u).errors = t.errors ++ u.errors :=
  List.filter_append t.events u.events

theorem append_left_cancel {t u v : Trace} (h : t ++ u = t ++ v) : u = v := by
  ext1
  · exact List.append_cancel_left (congrArg requests h)
  · exact List.append_cancel_left (congrArg attempts h)
  · exact List.append_cancel_left (congrArg events h)

/-- The stages entered, those of writing a file apart, are the stages of the requests made, each
with the target of its request. -/
def InStep (t : Trace) : Prop :=
  (t.stages.filter (·.1 ≠ .emitting)).map (fun p => (p.1.request?, p.2)) =
    t.requests.map fun q => (some q.kind, q.target)

theorem InStep.append {t u : Trace} (ht : t.InStep) (hu : u.InStep) : (t ++ u).InStep := by
  unfold InStep at *
  rw [stages_append, List.filter_append, List.map_append, ht, hu, requests_append, List.map_append]

theorem InStep.request {stage : Stage} {q : Request} (h : stage.request? = some q.kind) :
    InStep ⟨[q], [], [.entering stage q.target]⟩ := by
  have hstage : stage ≠ .emitting := by
    rintro rfl
    cases h
  simp [InStep, stages, Event.stage?, hstage, h]

theorem InStep.quiet {event : Event} (h : ∀ p, event.stage? = some p → p.1 = .emitting) :
    InStep ⟨[], [], [event]⟩ := by
  cases hstage : event.stage? with
  | none => simp [InStep, stages, hstage]
  | some p => simp [InStep, stages, hstage, h p hstage]

/-- The trace of a run that reached the world `v`, and failed since the catalog refused the last
request, in the stage entered last. -/
structure RefusedAt (c : Catalog σ) (t : Trace) (v : RecordedWorld σ τ) (stage : Stage)
    (target reason : String) : Prop where
  entered : t.stages.getLast? = some (stage, target)
  asked : ∃ before q s, t.requests = before ++ [q] ∧ c.ask q s = (.error reason, v.catalog.1) ∧
    stage.request? = some q.kind ∧ q.target = target

end Trace

open Generation

namespace Generator

/-! ## Requests and failures -/

/-- A world reached from `w` in which the stages entered since are those of the requests made. -/
def ReachedInStep (w v : RecordedWorld σ τ) : Prop :=
  ∃ t, v.trace = w.trace ++ t ∧ t.InStep

/-- A world reached from `w` in the same way, in which the failure is the answer to the last request,
unless the sink has answered with it or it is no refusal. -/
def FailedInStep (c : Catalog σ) (w : RecordedWorld σ τ) (f : Failure) (v : RecordedWorld σ τ) :
    Prop :=
  ∃ t, v.trace = w.trace ++ t ∧ t.InStep ∧ ∀ stage target reason, f = .query stage target reason →
    (∃ a ∈ t.attempts, a.answer = .error f) ∨ t.RefusedAt c v stage target reason

section

variable {c : Catalog σ} {w v u : RecordedWorld σ τ} {f : Failure} {t : Trace}

theorem ReachedInStep.next (h : ReachedInStep w v) (hu : u.trace = v.trace ++ t) (ht : t.InStep) :
    ReachedInStep w u := by
  obtain ⟨s, hs, hstep⟩ := h
  exact ⟨s ++ t, by rw [hu, hs, Trace.append_assoc], hstep.append ht⟩

/-- A refused request is the last one, and its stage the one entered last. -/
theorem ReachedInStep.refused (h : ReachedInStep w v) {stage : Stage} {q : Request}
    (hstage : stage.request? = some q.kind) {reason : String} {s : σ × List Request}
    (hask : c.recorded.ask q v.catalog = (.error reason, s)) (spans : List Span) :
    FailedInStep c w (.query stage q.target reason)
      ⟨s, v.sink, v.journal ++ [⟨.entering stage q.target, spans⟩]⟩ := by
  obtain ⟨t, ht, hstep⟩ := h
  have htrace := World.trace_asked c q v ⟨.entering stage q.target, spans⟩
  rw [hask, ht, Trace.append_assoc] at htrace
  refine ⟨_, htrace, hstep.append (.request hstage), ?_⟩
  rintro stage' target' reason' ⟨⟩
  refine .inr ⟨by simp [Trace.stages, Event.stage?], t.requests, q, v.catalog.1, by simp, ?_⟩
  obtain ⟨hanswer, hs⟩ := Prod.mk.inj hask
  exact ⟨Prod.ext hanswer (congrArg Prod.fst hs), hstage, rfl⟩

/-- A failure to write is the answer of the sink. -/
theorem ReachedInStep.unwritten (h : ReachedInStep w v) {k : Sink τ} {r : WriteRequest}
    {s : τ × List Attempt} (hwrite : k.recorded.write r v.sink = (.error f, s)) :
    FailedInStep c w f { v with sink := s } := by
  obtain ⟨t, ht, hstep⟩ := h
  have htrace := World.trace_written k r v
  rw [hwrite, ht, Trace.append_assoc] at htrace
  refine ⟨_, htrace, hstep.append rfl, ?_⟩
  have hmem : (⟨r, .error f⟩ : Attempt) ∈ (t ++ ⟨[], [⟨r, .error f⟩], []⟩).attempts := by simp
  exact fun _ _ _ _ => .inl ⟨_, hmem, rfl⟩

/-- Neither enters a stage: the failure of a table is noted behind the stage that failed. -/
theorem FailedInStep.tableFailed (h : FailedInStep c w f v) (table : String) (spans : List Span) :
    FailedInStep c w f (v.noted ⟨.tableFailed table f, spans⟩) := by
  obtain ⟨t, ht, hstep, hrefused⟩ := h
  have htrace := v.trace_noted ⟨.tableFailed table f, spans⟩
  rw [ht, Trace.append_assoc] at htrace
  refine ⟨_, htrace, hstep.append rfl, ?_⟩
  intro stage target reason hf
  rcases hrefused stage target reason hf with ⟨a, ha, hanswer⟩ | ⟨hlast, hasked⟩
  · exact .inl ⟨a, by simpa using ha, hanswer⟩
  · have hstages : (t ++ ⟨[], [], [.tableFailed table f]⟩).stages = t.stages := by
      rw [Trace.stages_append]
      exact List.append_nil _
    refine .inr ⟨hstages ▸ hlast, ?_⟩
    rw [Trace.requests_append, List.append_nil]
    exact hasked

end

theorem invariant_inStep (g : Generator σ τ) (w : RecordedWorld σ τ) :
    g.recorded.Invariant (ReachedInStep w) (FailedInStep g.catalog w) where
  note v event spans hevent hv := hv.next (v.trace_noted ⟨event, spans⟩) (.quiet hevent)
  ask := by
    intro v spans stage q hstage hv
    rcases hr : g.recorded.catalog.ask q v.catalog with ⟨reason | a, s⟩
    · exact hv.refused hstage hr spans
    · have htrace := World.trace_asked g.catalog q v ⟨.entering stage q.target, spans⟩
      have hs : (g.catalog.recorded.ask q v.catalog).2 = s := congrArg Prod.snd hr
      rw [hs] at htrace
      exact hv.next htrace (.request hstage)
  write := by
    intro v a _ hv
    rcases hr : g.recorded.sink.write (a.toRequest g.recorded.config) v.sink with ⟨f | o, s⟩
    · exact hv.unwritten hr
    · have htrace := World.trace_written g.sink (a.toRequest g.config) v
      have hs : (g.sink.recorded.write (a.toRequest g.config) v.sink).2 = s := congrArg Prod.snd hr
      rw [hs] at htrace
      exact hv.next htrace rfl
  reject := by
    rintro v f hf ⟨t, ht, hstep⟩
    refine ⟨t, ht, hstep, ?_⟩
    rintro stage target reason rfl
    cases hf
  tableFailed v f table spans hv := hv.tableFailed table spans

end Generator

/-! ## The order of the stages -/

/-- An event that enters no stage and is no error. -/
def Event.Quiet (event : Event) : Prop :=
  event.stage? = none ∧ event.level ≠ .error

def tableStages (table : String) : List (Stage × String) :=
  [(.fetchingFields, table), (.fetchingOwnRelations, table), (.fetchingInverseRelations, table),
   (.emitting, table)]

def enumStages (table : String) : List (Stage × String) :=
  [(.validatingFields, table), (.queryingRows, table), (.emitting, table)]

/-- A step that enters these stages in order, all of them if it succeeds and at least `least` of them
if it fails, and notes no error. -/
structure Walks (least : ℕ) (stages : List (Stage × String)) (r : Except Failure α) (t : Trace) :
    Prop where
  order : t.stages <+: stages
  entered : least ≤ t.stages.length
  whole : ∀ a, r = .ok a → t.stages = stages
  clean : t.errors = []

/-- The stages of a table. A failure is noted as the only error, with the table, and last of all. -/
structure TableStages (table : String) (r : Except Failure α) (t : Trace) : Prop where
  order : t.stages <+: tableStages table
  entered : t.stages ≠ []
  made : ∀ a, r = .ok a → t.stages = tableStages table ∧ t.errors = []
  failed : ∀ f, r = .error f → t.errors = [.tableFailed table f] ∧
    t.events.getLast? = some (.tableFailed table f)

/-- The stages of a schema: its listing, and then the stages of its tables up to the first that
fails. -/
inductive SchemaStages (schema : String) : Except Failure α → Trace → Prop
  | unlisted {f : Failure} {t : Trace} (stages : t.stages = [(.listingTables, schema)])
      (clean : t.errors = []) : SchemaStages schema (.error f) t
  | made {a : α} {t : Trace} (tables : List String)
      (stages : t.stages = (.listingTables, schema) :: tables.flatMap tableStages)
      (clean : t.errors = []) (last : t.events.getLast? = some (.schemaDone tables.length)) :
      SchemaStages schema (.ok a) t
  | failed {f : Failure} {t : Trace} (before : List String) (table : String)
      (part : List (Stage × String))
      (stages : t.stages = (.listingTables, schema) :: before.flatMap tableStages ++ part)
      (order : part <+: tableStages table) (entered : part ≠ [])
      (error : t.errors = [.tableFailed table f])
      (last : t.events.getLast? = some (.tableFailed table f)) : SchemaStages schema (.error f) t

namespace Generation

variable {least m : ℕ} {stages rest : List (Stage × String)}

theorem walks_nothing {x : RecordedGeneration σ τ α} {P : Except Failure α → Trace → Prop}
    (hx : Leaves x P) (h : ∀ r t, P r t → ∀ event ∈ t.events, event.Quiet) :
    Leaves x (Walks 0 []) := by
  apply hx.mono
  intro r t ht
  have hstages : t.stages = [] :=
    List.filterMap_eq_nil_iff.2 fun event he => (h r t ht event he).1
  have herrors : t.errors = [] :=
    List.filter_eq_nil_iff.2 fun event he => by simpa using (h r t ht event he).2
  exact ⟨hstages ▸ List.prefix_refl _, Nat.zero_le _, fun _ _ => hstages, herrors⟩

theorem walks_ask (c : Catalog σ) (stage : Stage) (q : Request) :
    Leaves (ask (τ := τ × List Attempt) c.recorded stage q) (Walks 1 [(stage, q.target)]) := by
  apply (Leaves.ask c stage q).mono
  rintro r t ⟨rfl, -⟩
  exact ⟨List.prefix_refl _, Nat.le_refl _, fun _ _ => rfl, rfl⟩

theorem walks_emitting (table : String) :
    Leaves (note (.entering .emitting table) : RecordedGeneration σ τ Unit)
      (Walks 1 [(.emitting, table)]) := by
  apply (Leaves.note _).mono
  rintro r t ⟨-, rfl⟩
  exact ⟨List.prefix_refl _, Nat.le_refl _, fun _ _ => rfl, rfl⟩

theorem walks_bind {x : RecordedGeneration σ τ α} {f : α → RecordedGeneration σ τ β}
    (hx : Leaves x (Walks least stages)) (hf : ∀ a, Leaves (f a) (Walks m rest)) :
    Leaves (x >>= f) (Walks least (stages ++ rest)) := by
  apply hx.bind
  · intro e t ht
    exact ⟨ht.order.trans (List.prefix_append _ _), ht.entered, by rintro a ⟨⟩, ht.clean⟩
  · intro a t ht
    have hstages := ht.whole a rfl
    apply (hf a).mono
    intro r u hu
    constructor
    · rw [Trace.stages_append, hstages]
      exact (List.prefix_append_right_inj stages).2 hu.order
    · rw [Trace.stages_append, List.length_append]
      exact ht.entered.trans (Nat.le_add_right _ _)
    · intro b hb
      rw [Trace.stages_append, hstages, hu.whole b hb]
    · rw [Trace.errors_append, ht.clean, hu.clean, List.append_nil]

theorem walks_pure (a : α) : Leaves (pure a : RecordedGeneration σ τ α) (Walks 0 []) := by
  apply walks_nothing (Leaves.pure a)
  rintro r t ⟨-, rfl⟩
  exact List.forall_mem_nil _

end Generation

namespace Generator

theorem incomingRelations_walks (g : Generator σ τ) (keys : List IncomingKey) :
    Leaves (g.recorded.incomingRelations keys) (Walks 0 []) := by
  apply walks_nothing (g.incomingRelations_leaves keys)
  rintro r t ⟨-, rfl⟩ event hevent
  obtain ⟨k, -, rfl⟩ := List.mem_map.1 hevent
  exact ⟨rfl, by rintro ⟨⟩⟩

theorem readEntity_walks (g : Generator σ τ) (schema table : String) :
    Leaves (g.recorded.readEntity schema table) (Walks 1 (tableStages table).dropLast) := by
  unfold readEntity
  apply walks_bind (walks_ask g.catalog .fetchingFields (.columns schema table))
  intro fields
  apply walks_bind (walks_ask g.catalog .fetchingOwnRelations (.outgoingKeys schema table))
  intro outgoing
  apply walks_bind (walks_ask g.catalog .fetchingInverseRelations (.incomingKeys table))
  intro incoming
  exact walks_bind (g.incomingRelations_walks incoming) fun _ => walks_pure _

theorem makeClass_walks (d : Dialect) (c : Config) (e : Entity) :
    Leaves (makeClass d c e : RecordedGeneration σ τ Artifact) (Walks 0 []) := by
  apply walks_nothing (Generation.makeClass_leaves d c e)
  rintro r t ⟨-, rfl⟩ event hevent
  unfold Entity.skipEvents at hevent
  split at hevent
  · obtain ⟨p, -, rfl⟩ := List.mem_map.1 hevent
    exact ⟨rfl, by rintro ⟨⟩⟩
  · cases hevent

theorem write_walks (g : Generator σ τ) (q : WriteRequest) :
    Leaves (write (σ := σ × List Request) g.recorded.sink q) (Walks 0 []) := by
  apply walks_nothing (Leaves.write g.sink q)
  rintro r t rfl event hevent
  split at hevent
  · cases List.mem_singleton.1 hevent
    exact ⟨rfl, by rintro ⟨⟩⟩
  · cases hevent

theorem note_walks (event : Event) (h : event.Quiet) :
    Leaves (note event : RecordedGeneration σ τ Unit) (Walks 0 []) := by
  apply walks_nothing (Leaves.note event)
  rintro r t ⟨-, rfl⟩ other hother
  cases List.mem_singleton.1 hother
  exact h

theorem deliver_walks (g : Generator σ τ) (a : Artifact) :
    Leaves (g.recorded.deliver a) (Walks 0 []) := by
  unfold deliver
  by_cases hs : g.config.saveAfterCreate
  · simp only [recorded, hs, if_true]
    apply walks_bind (g.write_walks (a.toRequest g.config))
    intro o
    exact walks_bind (note_walks (.saved a.className _ o) ⟨rfl, by rintro ⟨⟩⟩) fun _ => walks_pure a
  · simp only [recorded, hs]
    exact walks_bind (note_walks (.generated a.className) ⟨rfl, by rintro ⟨⟩⟩) fun _ => walks_pure a

theorem ofResult_walks (r : Except Failure α) :
    Leaves (ofResult r : RecordedGeneration σ τ α) (Walks 0 []) := by
  cases r with
  | ok a => exact walks_pure a
  | error f =>
      apply walks_nothing (Leaves.fail f)
      rintro r t ⟨-, rfl⟩
      exact List.forall_mem_nil _

theorem requireField_walks (table : String) (columns : List Column) (field : String) :
    Leaves (requireField table columns field : RecordedGeneration σ τ Unit) (Walks 0 []) := by
  unfold requireField
  split
  · exact walks_pure ()
  · exact ofResult_walks (.error _)

theorem runEnum_walks (g : Generator σ τ) (schema table nameField valueField : String) :
    Leaves (g.recorded.runEnum schema table nameField valueField)
      (Walks 1 (enumStages table)) := by
  unfold runEnum
  apply Leaves.inSpan
  apply walks_bind (walks_ask g.catalog .validatingFields (.columns schema table))
  intro columns
  apply walks_bind (requireField_walks table columns nameField)
  intro _
  apply walks_bind (requireField_walks table columns valueField)
  intro _
  apply walks_bind (walks_ask g.catalog .queryingRows (.rows schema table))
  intro rows
  apply walks_bind (walks_emitting table)
  intro _
  exact walks_bind (ofResult_walks _) g.deliver_walks

theorem tableClass_walks (g : Generator σ τ) (schema table : String) :
    Leaves (do
      let e ← g.recorded.readEntity schema table
      note (.entering .emitting table)
      g.recorded.deliver (← Generation.makeClass g.recorded.dialect g.recorded.config e) :
        RecordedGeneration σ τ Artifact) (Walks 1 (tableStages table)) := by
  apply walks_bind (g.readEntity_walks schema table)
  intro e
  apply walks_bind (walks_emitting table)
  intro _
  exact walks_bind (makeClass_walks _ _ e) g.deliver_walks

theorem runTable_stages (g : Generator σ τ) (schema table : String) :
    Leaves (g.recorded.runTable schema table) (TableStages table) := by
  unfold runTable tableClass
  apply Leaves.inSpan
  apply Leaves.inSpan
  apply (g.tableClass_walks schema table).noteFailure
  · intro a t ht
    refine ⟨ht.order, List.length_pos_iff.1 ht.entered, ?_, by rintro a ⟨⟩⟩
    exact fun b hb => ⟨ht.whole a rfl, ht.clean⟩
  · intro e t ht
    have hstages : (t ++ ⟨[], [], [.tableFailed table e]⟩).stages = t.stages := by
      rw [Trace.stages_append]
      exact List.append_nil _
    constructor
    · rw [hstages]
      exact ht.order
    · rw [hstages]
      exact List.length_pos_iff.1 ht.entered
    · rintro a ⟨⟩
    · rintro f ⟨⟩
      rw [Trace.errors_append, ht.clean, Trace.events_append]
      exact ⟨rfl, List.getLast?_concat⟩

/-- Tables in turn go through all their stages, up to the first that fails. -/
theorem mapM_runTable_stages (g : Generator σ τ) (schema : String) (tables : List String) :
    Leaves (List.mapM (g.recorded.runTable schema) tables) fun r t =>
      (∃ artifacts, r = .ok artifacts ∧ artifacts.length = tables.length ∧
        t.stages = tables.flatMap tableStages ∧ t.errors = []) ∨
      ∃ (f : Failure) (before : List String) (table : String) (part : List (Stage × String)),
        r = .error f ∧ t.stages = before.flatMap tableStages ++ part ∧
        part <+: tableStages table ∧ part ≠ [] ∧ t.errors = [.tableFailed table f] ∧
        t.events.getLast? = some (.tableFailed table f) := by
  induction tables with
  | nil =>
      apply (Leaves.pure []).mono
      rintro r t ⟨rfl, rfl⟩
      exact .inl ⟨[], rfl, rfl, rfl, rfl⟩
  | cons table tables ih =>
      rw [List.mapM_cons]
      apply (g.runTable_stages schema table).bind
      · intro f t ht
        obtain ⟨herror, hlast⟩ := ht.failed f rfl
        exact .inr ⟨f, [], table, t.stages, rfl, rfl, ht.order, ht.entered, herror, hlast⟩
      intro a t ht
      obtain ⟨hstages, hclean⟩ := ht.made a rfl
      apply ih.bind
      · intro f u hu
        obtain ⟨_, h, -⟩ | ⟨f', before, other, part, ⟨⟩, hpart, horder, hentered, herror, hlast⟩ := hu
        · cases h
        refine .inr ⟨f, table :: before, other, part, rfl, ?_, horder, hentered, ?_, ?_⟩
        · simp [hstages, hpart]
        · simp [hclean, herror]
        · simp [hlast]
      · intro artifacts u hu
        obtain ⟨_, ⟨⟩, hlength, hrest, hclean'⟩ | ⟨_, _, _, _, h, -⟩ := hu
        · apply (Leaves.pure (a :: artifacts)).mono
          rintro r v ⟨rfl, rfl⟩
          refine .inl ⟨a :: artifacts, rfl, by simp [hlength], ?_, ?_⟩
          · simp [hstages, hrest]
          · simp [hclean, hclean']
        · cases h

theorem runSchema_stages (g : Generator σ τ) (schema : String) :
    Leaves (g.recorded.runSchema schema) (SchemaStages schema) := by
  rw [runSchema_eq]
  apply ((walks_ask g.catalog .listingTables (.tables schema)).inSpan _).bind
  · intro f t ht
    have hstages := ht.order.eq_of_length (Nat.le_antisymm ht.order.length_le ht.entered)
    exact .unlisted hstages ht.clean
  intro tables t ht
  have hstages := ht.whole tables rfl
  apply (g.mapM_runTable_stages schema tables).bind
  · intro f u hu
    obtain ⟨_, h, -⟩ | ⟨f', before, table, part, ⟨⟩, hpart, horder, hentered, herror, hlast⟩ := hu
    · cases h
    refine .failed before table part ?_ horder hentered ?_ ?_
    · rw [Trace.stages_append, hstages, hpart]
      rfl
    · rw [Trace.errors_append, ht.clean, herror, List.nil_append]
    · simp [hlast]
  · intro artifacts u hu
    obtain ⟨_, ⟨⟩, hlength, hrest, hclean⟩ | ⟨_, _, _, _, h, -⟩ := hu
    · apply ((Leaves.note (.schemaDone artifacts.length)).inSpan _).bind_ok
      apply (Leaves.pure artifacts).mono
      rintro r v ⟨rfl, rfl⟩
      have hdone : Trace.stages ⟨[], [], [.schemaDone artifacts.length]⟩ = [] := rfl
      have hquiet : Trace.errors ⟨[], [], [.schemaDone artifacts.length]⟩ = [] := rfl
      rw [Trace.append_empty]
      refine .made tables ?_ ?_ ?_
      · simp only [Trace.stages_append, hstages, hrest, hdone, List.append_nil]
        rfl
      · simp only [Trace.errors_append, ht.clean, hclean, hquiet, List.append_nil]
      · simp [hlength]
    · cases h

end Generator

/-- The stages that a task goes through. -/
def StagesOf (task : Task) (r : Except Failure Unit) (t : Trace) : Prop :=
  match task with
  | .schema schema => SchemaStages schema r t
  | .table _ table => TableStages table r t
  | .entity _ table => Walks 1 (tableStages table).dropLast r t
  | .enumeration _ table _ _ => Walks 1 (enumStages table) r t

namespace Generation

theorem Leaves.discard {x : RecordedGeneration σ τ α} {P : Except Failure α → Trace → Prop}
    {Q : Except Failure Unit → Trace → Prop} (hx : Leaves x P)
    (h : ∀ r t, P r t → Q (r.map fun _ => ()) t) : Leaves (x >>= fun _ => Pure.pure ()) Q := by
  apply hx.bind
  · exact fun f t ht => h (.error f) t ht
  · intro a t ht
    apply (Leaves.pure ()).mono
    rintro r u ⟨rfl, rfl⟩
    rw [Trace.append_empty]
    exact h (.ok a) t ht

end Generation

namespace Generator

theorem perform_stages (g : Generator σ τ) (task : Task) :
    Leaves (g.recorded.perform task) (StagesOf task) := by
  cases task with
  | schema schema =>
      apply (g.runSchema_stages schema).discard
      intro r t ht
      cases ht with
      | unlisted stages clean => exact .unlisted stages clean
      | made tables stages clean last => exact .made tables stages clean last
      | failed before table part stages order entered error last =>
          exact .failed before table part stages order entered error last
  | table schema table =>
      apply (g.runTable_stages schema table).discard
      intro r t ht
      refine ⟨ht.order, ht.entered, ?_, ?_⟩
      · intro _ hr
        cases r with
        | error f => cases hr
        | ok a => exact ht.made a rfl
      · intro f hr
        cases r with
        | error f' =>
            cases hr
            exact ht.failed f rfl
        | ok a => cases hr
  | entity schema table => exact walks_bind (g.readEntity_walks schema table) fun _ => walks_pure ()
  | enumeration schema table nameField valueField =>
      exact walks_bind (g.runEnum_walks schema table nameField valueField) fun _ => walks_pure ()

/-- The stages that a task enters are those of its requests, in the order of its kind. If the task
fails with a refusal that is not an answer of the sink, then the catalog refused the last request,
in the stage entered last. A table that fails is noted as the only error, last of all. -/
theorem perform_in_step (g : Generator σ τ) (task : Task) (w : RecordedWorld σ τ) :
    Mirrors (g.recorded.perform task) (g.perform task) ∧
    ∃ r v t, (g.recorded.perform task).run w = (r, v) ∧ v.trace = w.trace ++ t ∧ t.InStep ∧
      (∀ stage target reason, r = .error (.query stage target reason) →
        (∀ a ∈ t.attempts, a.answer ≠ .error (.query stage target reason)) →
        t.RefusedAt g.catalog v stage target reason) ∧
      StagesOf task r t := by
  refine ⟨g.perform_mirrors task, ?_⟩
  obtain ⟨t, ht, hstages⟩ := g.perform_stages task [] w
  have hstart : ReachedInStep w w := ⟨.empty, (Trace.append_empty _).symm, rfl⟩
  have hstep := (g.invariant_inStep w).keeps_perform task [] w hstart
  rcases hr : g.recorded.perform task [] w with ⟨f | _, v⟩
  · rw [hr] at ht hstages hstep
    obtain ⟨u, hu, hin, hrefused⟩ := hstep
    obtain rfl := Trace.append_left_cancel (ht.symm.trans hu)
    refine ⟨.error f, v, t, hr, ht, hin, ?_, hstages⟩
    rintro stage target reason ⟨⟩ hsink
    rcases hrefused stage target reason rfl with ⟨a, ha, hanswer⟩ | hlast
    · exact absurd hanswer (hsink a ha)
    · exact hlast
  · rw [hr] at ht hstages hstep
    obtain ⟨u, hu, hin⟩ := hstep
    obtain rfl := Trace.append_left_cancel (ht.symm.trans hu)
    exact ⟨.ok (), v, t, hr, ht, hin, by rintro stage target reason ⟨⟩, hstages⟩

end Generator

end EntityClasses
