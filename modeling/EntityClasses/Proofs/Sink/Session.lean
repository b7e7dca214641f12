import EntityClasses.Proofs.Generation.Task
import EntityClasses.Proofs.Sink.Memory

/-!
# Sessions over files in memory

A session performs tasks and single writes, and may change its settings in between. All that becomes
of its files is what its writes make of them, each as it is answered: no file is removed, and a file
changes only if a write may overwrite it.
-/
namespace EntityClasses

variable {σ τ : Type}

inductive Operation
  | task (task : Task)
  | write (request : WriteRequest)
  | configure (config : Config) (dialect : Dialect)

structure Session (σ τ : Type) where
  generator : Generator σ τ
  world : World σ τ

namespace Session

def perform (s : Session σ τ) : Operation → Session σ τ
  | .task task => { s with world := ((s.generator.perform task).run s.world).2 }
  | .write request =>
    { s with world := ((Generation.write s.generator.sink request).run s.world).2 }
  | .configure config dialect =>
    { s with generator := { s.generator with config := config, dialect := dialect } }

def performAll (s : Session σ τ) (operations : List Operation) : Session σ τ :=
  operations.foldl perform s

end Session

open Generation

/-! ## Properties of the state of a sink -/

namespace Generator

variable {g : Generator σ τ} {I : τ → Prop}

theorem invariant_of_sink (h : ∀ (a : Artifact) t, g.config.saveAfterCreate = true → I t →
    I (g.sink.write (a.toRequest g.config) t).2) :
    g.Invariant (fun w => I w.sink) (fun _ w => I w.sink) where
  note _ _ _ _ hw := hw
  ask w spans stage q _ hw := by
    rcases g.catalog.ask q w.catalog with ⟨_ | _, s⟩
    · exact hw
    · exact hw
  write w a hs hw := by
    have hnext := h a w.sink hs hw
    rcases hr : g.sink.write (a.toRequest g.config) w.sink with ⟨_ | _, t⟩
    · rw [hr] at hnext
      exact hnext
    · rw [hr] at hnext
      exact hnext
  reject _ _ _ hw := hw
  tableFailed _ _ _ _ hw := hw

/-- What the deliveries of a generator keep of its sink, its tasks keep. -/
theorem perform_sink (h : ∀ (a : Artifact) t, g.config.saveAfterCreate = true → I t →
    I (g.sink.write (a.toRequest g.config) t).2) (task : Task) {w : World σ τ} (hw : I w.sink) :
    I ((g.perform task).run w).2.sink := by
  have hkeeps := (invariant_of_sink h).keeps_perform task [] w hw
  unfold run
  rcases hr : g.perform task [] w with ⟨_ | _, v⟩
  · rw [hr] at hkeeps
    exact hkeeps
  · rw [hr] at hkeeps
    exact hkeeps

end Generator

/-- Whether all writes that come from the operation belong to `Q`, those of tasks aside. -/
def Operation.Within (Q : WriteRequest → Prop) : Operation → Prop
  | task _ => True
  | write request => Q request
  | configure config _ => ∀ a : Artifact, Q (a.toRequest config)

namespace Session

variable {k : Sink τ} {I : τ → Prop} {Q : WriteRequest → Prop}

/-- A session in which all writes belong to `Q` keeps what such writes keep of its sink. -/
theorem performAll_sink (hI : ∀ r t, Q r → I t → I (k.write r t).2) (operations : List Operation)
    {s : Session σ τ} (hsink : s.generator.sink = k)
    (hconfig : ∀ a : Artifact, Q (a.toRequest s.generator.config))
    (hoperations : ∀ o ∈ operations, o.Within Q) (hs : I s.world.sink) :
    I (s.performAll operations).world.sink := by
  induction operations generalizing s with
  | nil => exact hs
  | cons o operations ih =>
      obtain ⟨ho, hrest⟩ := List.forall_mem_cons.1 hoperations
      cases o with
      | task task =>
          apply ih (s := s.perform (.task task)) hsink hconfig hrest
          apply Generator.perform_sink _ task hs
          intro a t _ ht
          rw [hsink]
          exact hI _ t (hconfig a) ht
      | write request =>
          apply ih (s := s.perform (.write request)) hsink hconfig hrest
          have hnext := hI request s.world.sink ho hs
          rw [← hsink] at hnext
          have hwrite := write_apply s.generator.sink request [] s.world
          simpa only [perform, run, hwrite] using hnext
      | configure config dialect =>
          exact ih (s := s.perform (.configure config dialect)) hsink ho hrest hs

theorem performAll_append (s : Session σ τ) (before after : List Operation) :
    s.performAll (before ++ after) = (s.performAll before).performAll after :=
  List.foldl_append

theorem sink_performAll (s : Session σ τ) (operations : List Operation) :
    (s.performAll operations).generator.sink = s.generator.sink := by
  induction operations generalizing s with
  | nil => rfl
  | cons o operations ih => cases o <;> exact ih _

theorem config_performAll {operations : List Operation} {s : Session σ τ}
    (hconfig : ∀ a : Artifact, Q (a.toRequest s.generator.config))
    (hoperations : ∀ o ∈ operations, o.Within Q) (a : Artifact) :
    Q (a.toRequest (s.performAll operations).generator.config) := by
  induction operations generalizing s with
  | nil => exact hconfig a
  | cons o operations ih =>
      obtain ⟨ho, hrest⟩ := List.forall_mem_cons.1 hoperations
      cases o with
      | task task => exact ih (s := s.perform (.task task)) hconfig hrest
      | write request => exact ih (s := s.perform (.write request)) hconfig hrest
      | configure config dialect => exact ih (s := s.perform (.configure config dialect)) ho hrest

/-- The same between two points of a session. -/
theorem performAll_sink_since (hI : ∀ r t, Q r → I t → I (k.write r t).2) {s : Session σ τ}
    (hsink : s.generator.sink = k) (hconfig : ∀ a : Artifact, Q (a.toRequest s.generator.config))
    {before after : List Operation} (hoperations : ∀ o ∈ before ++ after, o.Within Q)
    (hs : I (s.performAll before).world.sink) : I (s.performAll (before ++ after)).world.sink := by
  rw [performAll_append]
  apply performAll_sink hI after ((s.sink_performAll before).trans hsink)
  · exact config_performAll hconfig fun o ho => hoperations o (List.mem_append_left after ho)
  · exact fun o ho => hoperations o (List.mem_append_right before ho)
  · exact hs

/-! ## Sessions with and without records -/

theorem performAll_mirrors (g : Generator σ τ) (w : RecordedWorld σ τ)
    (operations : List Operation) :
    (performAll ⟨g, w.forget⟩ operations).world =
      (performAll ⟨g.recorded, w⟩ operations).world.forget := by
  induction operations generalizing g w with
  | nil => rfl
  | cons o operations ih =>
      cases o with
      | task task =>
          have hw := congrArg Prod.snd (g.perform_mirrors task [] w)
          have hstep : (⟨g, w.forget⟩ : Session σ τ).perform (.task task) =
              ⟨g, (g.recorded.perform task [] w).2.forget⟩ := congrArg (Session.mk g) hw
          simp only [performAll, List.foldl_cons, hstep]
          exact ih g _
      | write request =>
          have hw := congrArg Prod.snd (Mirrors.write (σ := σ) g.sink request [] w)
          have hstep : (⟨g, w.forget⟩ : Session σ τ).perform (.write request) =
              ⟨g, (Generation.write g.recorded.sink request [] w).2.forget⟩ :=
            congrArg (Session.mk g) hw
          simp only [performAll, List.foldl_cons, hstep]
          exact ih g _
      | configure config dialect => exact ih { g with config := config, dialect := dialect } w

/-- The writes of a session, as they are answered, make of the state of its sink what it is in the
end. -/
theorem performAll_replays (g : Generator σ τ) (w : RecordedWorld σ τ)
    (operations : List Operation) :
    ∃ attempts, (performAll ⟨g.recorded, w⟩ operations).world.sink.2 = w.sink.2 ++ attempts ∧
      g.sink.Replays w.sink.1 attempts
        (performAll ⟨g.recorded, w⟩ operations).world.sink.1 := by
  apply performAll_sink (k := g.recorded.sink) (Q := fun _ => True)
    (I := fun t => ∃ attempts, t.2 = w.sink.2 ++ attempts ∧ g.sink.Replays w.sink.1 attempts t.1)
  · rintro r t - ⟨attempts, hrecord, hreplays⟩
    have hnext : g.sink.write r t.1 =
        ((⟨r, (g.sink.write r t.1).1⟩ : Attempt).answer, (g.sink.write r t.1).2) := rfl
    refine ⟨attempts ++ [⟨r, (g.sink.write r t.1).1⟩], ?_, hreplays.concat hnext⟩
    rw [← List.append_assoc, ← hrecord]
    rfl
  · rfl
  · exact fun _ => trivial
  · intro o _
    cases o <;> simp [Operation.Within]
  · exact ⟨[], (List.append_nil _).symm, .nil _⟩

/-! ## Files in memory -/

/-- The files of a session that keeps records. -/
def files (s : Session (σ × List Request) (MemoryFiles × List Attempt)) : MemoryFiles :=
  s.world.sink.1

end Session

/-- Whether the operation leaves files that are there alone: overwriting is off. -/
def Operation.Spares : Operation → Prop
  | task _ => True
  | write request => request.overwrite = false
  | configure config _ => config.overwrite = false

theorem Operation.Spares.within {o : Operation} (h : o.Spares) :
    o.Within (·.overwrite = false) := by
  cases o with
  | task task => trivial
  | write request => exact h
  | configure config dialect => exact fun _ => h

namespace MemoryFiles

theorem effect_write (r : WriteRequest) (files : MemoryFiles) :
    Effect files ⟨r, (write r files).1⟩ (write r files).2 :=
  effect_of_write rfl

theorem get?_write_of_spared {r : WriteRequest} (hr : r.overwrite = false) {files : MemoryFiles}
    {path content : String} (h : files.get? path = some content) :
    (write r files).2.get? path = some content := by
  by_contra hne
  obtain ⟨hon, -⟩ := (effect_write r files).changed path content h hne
  simp [hr] at hon

end MemoryFiles

namespace Session

/-- Each write of a session over files in memory is skipped if its path is stored and overwriting is
off, and removes no file; in the end a path holds the content of the last write carried out there.
If overwriting is off throughout, a stored file never changes; a task leaves the sink alone if files
are not saved. -/
theorem files_performAll (catalog : Catalog σ) (c : Config) (d : Dialect)
    (w : RecordedWorld σ MemoryFiles) (operations : List Operation) :
    let g : Generator σ MemoryFiles := ⟨catalog, .memory, c, d⟩
    let start : Session (σ × List Request) (MemoryFiles × List Attempt) := ⟨g.recorded, w⟩
    let final := start.performAll operations
    (performAll ⟨g, w.forget⟩ operations).world = final.world.forget ∧
    (∃ attempts, final.world.sink.2 = w.sink.2 ++ attempts ∧
      (∀ before a after, attempts = before ++ a :: after → ∃ files next,
        Sink.memory.Replays w.sink.1 before files ∧ MemoryFiles.Effect files a next ∧
        Sink.memory.Replays next after final.files) ∧
      ∀ path, final.files.get? path =
        ((MemoryFiles.writtenAt path attempts).getLast?.map (·.request.content)).or
          (w.sink.1.get? path)) ∧
    (∀ before after, operations = before ++ after → ∀ path,
      ((start.performAll before).files.get? path).isSome → (final.files.get? path).isSome) ∧
    (c.overwrite = false → (∀ o ∈ operations, o.Spares) →
      ∀ before after, operations = before ++ after → ∀ path content,
        (start.performAll before).files.get? path = some content →
        final.files.get? path = some content) ∧
    ∀ before task after, operations = before ++ .task task :: after →
      (start.performAll before).generator.config.saveAfterCreate = false →
      (start.performAll (before ++ [.task task])).world.sink =
        (start.performAll before).world.sink := by
  intro g start final
  refine ⟨performAll_mirrors g w operations, ?_, ?_, ?_, ?_⟩
  · obtain ⟨attempts, hrecord, hreplays⟩ := performAll_replays g w operations
    refine ⟨attempts, hrecord, ?_, MemoryFiles.get?_of_replays hreplays⟩
    rintro before a after rfl
    obtain ⟨files, hbefore, hafter⟩ := hreplays.split
    cases hafter with
    | cons h hrest => exact ⟨files, _, hbefore, MemoryFiles.effect_of_write h, hrest⟩
  · rintro before after rfl path hpath
    refine performAll_sink_since (k := g.recorded.sink) (Q := fun _ => True)
      (I := fun t => (MemoryFiles.get? t.1 path).isSome) ?_ rfl (fun _ => trivial) ?_ hpath
    · exact fun r t _ ht => (MemoryFiles.effect_write r t.1).kept path ht
    · intro o _
      cases o <;> simp [Operation.Within]
  · rintro hc hspares before after rfl path content hpath
    have hconfig : ∀ a : Artifact, (a.toRequest start.generator.config).overwrite = false :=
      fun _ => hc
    refine performAll_sink_since (k := g.recorded.sink) (Q := (·.overwrite = false))
      (I := fun t => MemoryFiles.get? t.1 path = some content) ?_ rfl hconfig ?_ hpath
    · exact fun r t hr ht => MemoryFiles.get?_write_of_spared hr ht
    · exact fun o ho => (hspares o ho).within
  · rintro before task after rfl hs
    rw [performAll_append]
    apply Generator.perform_sink (I := (· = (start.performAll before).world.sink)) _ task rfl
    intro a t hon
    rw [hs] at hon
    cases hon

end Session

end EntityClasses
