import EntityClasses.Generator
import Mathlib.Data.List.Basic

/-!
# Traces of generation runs

A catalog and a sink that keep records show what a run asks for, what it hands over and what it
notes. Every step adds a trace to the records, whatever the world and the open spans; `Leaves`
says which traces a step can add for each result. Keeping records changes nothing else: a step on
recorded parts mirrors the same step on the bare ones.
-/
namespace EntityClasses

variable {σ τ α β : Type}

/-- A file handed to a sink, and what became of it. -/
structure Attempt where
  request : WriteRequest
  answer : Except Failure Outcome

def Attempt.accepted? (a : Attempt) : Option WriteRequest :=
  match a.answer with
  | .ok _ => some a.request
  | .error _ => none

/-- Keeps the attempts made so far beside the state. -/
def Sink.recorded (k : Sink τ) : Sink (τ × List Attempt) where
  write r s := ((k.write r s.1).1, (k.write r s.1).2, s.2 ++ [⟨r, (k.write r s.1).1⟩])
  notesSkipped := k.notesSkipped

abbrev RecordedWorld (σ τ : Type) := World (σ × List Request) (τ × List Attempt)

abbrev RecordedGeneration (σ τ α : Type) := Generation (σ × List Request) (τ × List Attempt) α

@[ext] structure Trace where
  requests : List Request
  attempts : List Attempt
  events : List Event

namespace Trace

instance : Append Trace :=
  ⟨fun t u => ⟨t.requests ++ u.requests, t.attempts ++ u.attempts, t.events ++ u.events⟩⟩

def empty : Trace := ⟨[], [], []⟩

/-- The files that the sink took, written or skipped. -/
def accepted (t : Trace) : List WriteRequest :=
  t.attempts.filterMap Attempt.accepted?

@[simp] theorem requests_append (t u : Trace) : (t ++ u).requests = t.requests ++ u.requests := rfl

@[simp] theorem attempts_append (t u : Trace) : (t ++ u).attempts = t.attempts ++ u.attempts := rfl

@[simp] theorem events_append (t u : Trace) : (t ++ u).events = t.events ++ u.events := rfl

@[simp] theorem accepted_append (t u : Trace) : (t ++ u).accepted = t.accepted ++ u.accepted :=
  List.filterMap_append

theorem accepted_of_no_attempts {t : Trace} (h : t.attempts = []) : t.accepted = [] := by
  rw [accepted, h]
  rfl

@[simp] theorem append_empty (t : Trace) : t ++ empty = t := by
  ext1 <;> simp [empty]

theorem append_assoc (t u v : Trace) : t ++ u ++ v = t ++ (u ++ v) := by
  ext1 <;> simp

end Trace

namespace World

def trace (w : RecordedWorld σ τ) : Trace :=
  ⟨w.catalog.2, w.sink.2, w.journal.map Entry.event⟩

theorem trace_noted (w : RecordedWorld σ τ) (entry : Entry) :
    trace { w with journal := w.journal ++ [entry] } = w.trace ++ ⟨[], [], [entry.event]⟩ := by
  ext1 <;> simp [trace]

/-- A request is recorded, and its stage is noted. -/
theorem trace_asked (c : Catalog σ) (q : Request) (w : RecordedWorld σ τ) (entry : Entry) :
    trace ⟨(c.recorded.ask q w.catalog).2, w.sink, w.journal ++ [entry]⟩ =
      w.trace ++ ⟨[q], [], [entry.event]⟩ := by
  ext1 <;> simp [trace, Catalog.recorded]

theorem trace_written (k : Sink τ) (r : WriteRequest) (w : RecordedWorld σ τ) :
    trace { w with sink := (k.recorded.write r w.sink).2 } =
      w.trace ++ ⟨[], [⟨r, (k.recorded.write r w.sink).1⟩], []⟩ := by
  ext1 <;> simp [trace, Sink.recorded]

/-- The world without its records. -/
def forget (w : RecordedWorld σ τ) : World σ τ :=
  ⟨w.catalog.1, w.sink.1, w.journal⟩

end World

def Generator.recorded (g : Generator σ τ) : Generator (σ × List Request) (τ × List Attempt) :=
  ⟨g.catalog.recorded, g.sink.recorded, g.config, g.dialect⟩

namespace Generation

theorem bind_apply (x : Generation σ τ α) (f : α → Generation σ τ β) (spans : List Span)
    (w : World σ τ) : (x >>= f) spans w =
      match x spans w with
      | (.ok a, v) => f a spans v
      | (.error e, v) => (.error e, v) := by
  simp only [bind, ReaderT.bind, ExceptT.bind, ExceptT.mk, StateT.bind]
  rcases x spans w with ⟨_ | _, v⟩ <;> rfl

theorem bind_ok {x : Generation σ τ α} {f : α → Generation σ τ β} {spans : List Span} {b : β}
    {w v : World σ τ} (h : (x >>= f) spans w = (.ok b, v)) :
    ∃ a u, x spans w = (.ok a, u) ∧ f a spans u = (.ok b, v) := by
  rw [bind_apply] at h
  rcases hx : x spans w with ⟨e | a, u⟩
  · rw [hx] at h
    cases h
  · rw [hx] at h
    exact ⟨a, u, rfl, h⟩

theorem noteFailure_ok {event : Failure → Event} {x : Generation σ τ α} {spans : List Span} {a : α}
    {w v : World σ τ} (h : noteFailure event x spans w = (.ok a, v)) :
    x spans w = (.ok a, v) := by
  unfold noteFailure at h
  rcases hx : x spans w with ⟨e | b, u⟩
  · rw [hx] at h
    cases h
  · rw [hx] at h
    exact h

theorem noteFailure_error {event : Failure → Event} {x : Generation σ τ α} {spans : List Span}
    {f : Failure} {w v : World σ τ} (h : x spans w = (.error f, v)) :
    noteFailure event x spans w =
      (.error f, { v with journal := v.journal ++ [⟨event f, spans⟩] }) := by
  unfold noteFailure
  rw [h]
  rfl

theorem note_apply (e : Event) (spans : List Span) (w : World σ τ) :
    note e spans w = (.ok (), { w with journal := w.journal ++ [⟨e, spans⟩] }) := rfl

theorem ask_apply (c : Catalog σ) (stage : Stage) (q : Request) (spans : List Span)
    (w : World σ τ) : ask c stage q spans w =
      ((c.ask q w.catalog).1.mapError (.query stage q.target),
        ⟨(c.ask q w.catalog).2, w.sink, w.journal ++ [⟨.entering stage q.target, spans⟩]⟩) := by
  simp only [ask, bind_apply, note]
  rcases c.ask q w.catalog with ⟨_ | _, s⟩ <;> rfl

theorem write_apply (k : Sink τ) (r : WriteRequest) (spans : List Span) (w : World σ τ) :
    write k r spans w =
      ((k.write r w.sink).1,
        ⟨w.catalog, (k.write r w.sink).2,
          if k.notesSkipped ∧ (k.write r w.sink).1 = .ok .skipped then
            w.journal ++ [⟨.targetExists r.path, spans⟩]
          else w.journal⟩) := by
  simp only [write, bind_apply]
  rcases k.write r w.sink with ⟨_ | _ | _, s⟩ <;> cases k.notesSkipped <;> rfl

theorem inSpan_bind (s : Span) (x : Generation σ τ α) (f : α → Generation σ τ β) :
    inSpan s (x >>= f) = inSpan s x >>= fun a => inSpan s (f a) := rfl

theorem inSpan_mapM (s : Span) (f : α → Generation σ τ β) (l : List α) :
    inSpan s (l.mapM f) = l.mapM fun a => inSpan s (f a) := by
  induction l with
  | nil => rfl
  | cons a l ih =>
      simp only [List.mapM_cons, inSpan_bind]
      rw [ih]
      rfl

/-! ## What a step adds to the records -/

/-- Every run of the step adds a trace that stands in the relation `P` to its result. -/
def Leaves (x : RecordedGeneration σ τ α) (P : Except Failure α → Trace → Prop) : Prop :=
  ∀ spans w, ∃ t, (x spans w).2.trace = w.trace ++ t ∧ P (x spans w).1 t

section Leaves

variable {P : Except Failure α → Trace → Prop} {R : Except Failure β → Trace → Prop}

theorem Leaves.mono {x : RecordedGeneration σ τ α} {Q : Except Failure α → Trace → Prop}
    (hx : Leaves x P) (h : ∀ r t, P r t → Q r t) : Leaves x Q := by
  intro spans w
  obtain ⟨t, ht, hp⟩ := hx spans w
  exact ⟨t, ht, h _ t hp⟩

theorem Leaves.pure (a : α) : Leaves (pure a : RecordedGeneration σ τ α)
    fun r t => r = .ok a ∧ t = .empty :=
  fun _ w => ⟨.empty, (Trace.append_empty w.trace).symm, rfl, rfl⟩

theorem Leaves.fail (f : Failure) : Leaves (fail f : RecordedGeneration σ τ α)
    fun r t => r = .error f ∧ t = .empty :=
  fun _ w => ⟨.empty, (Trace.append_empty w.trace).symm, rfl, rfl⟩

theorem Leaves.note (e : Event) : Leaves (note e : RecordedGeneration σ τ Unit)
    fun r t => r = .ok () ∧ t = ⟨[], [], [e]⟩ := by
  intro spans w
  exact ⟨⟨[], [], [e]⟩, w.trace_noted ⟨e, spans⟩, rfl, rfl⟩

/-- A failure decides the result; after a success the rest of the steps adds to the trace. -/
theorem Leaves.bind {x : RecordedGeneration σ τ α} {f : α → RecordedGeneration σ τ β}
    (hx : Leaves x P) (he : ∀ e t, P (.error e) t → R (.error e) t)
    (hf : ∀ a t, P (.ok a) t → Leaves (f a) fun r u => R r (t ++ u)) : Leaves (x >>= f) R := by
  intro spans w
  obtain ⟨t, ht, hp⟩ := hx spans w
  rw [bind_apply]
  rcases hr : x spans w with ⟨e | a, v⟩
  · rw [hr] at ht hp
    exact ⟨t, ht, he e t hp⟩
  · rw [hr] at ht hp
    obtain ⟨u, hu, hq⟩ := hf a t hp spans v
    refine ⟨t ++ u, ?_, hq⟩
    rw [hu, ht, Trace.append_assoc]

/-- A step that always ends in the same way hands on its value. -/
theorem Leaves.bind_ok {x : RecordedGeneration σ τ α} {f : α → RecordedGeneration σ τ β} {a : α}
    {t : Trace} (hx : Leaves x fun r u => r = .ok a ∧ u = t)
    (hf : Leaves (f a) fun r u => R r (t ++ u)) : Leaves (x >>= f) R := by
  apply hx.bind
  · rintro e u ⟨h, -⟩
    cases h
  · rintro b u ⟨h, rfl⟩
    cases h
    exact hf

theorem Leaves.inSpan {x : RecordedGeneration σ τ α} (s : Span) (hx : Leaves x P) :
    Leaves (inSpan s x) P :=
  fun spans w => hx (spans ++ [s]) w

theorem Leaves.noteFailure {x : RecordedGeneration σ τ α} {Q : Except Failure α → Trace → Prop}
    (event : Failure → Event) (hx : Leaves x P) (hok : ∀ a t, P (.ok a) t → Q (.ok a) t)
    (he : ∀ e t, P (.error e) t → Q (.error e) (t ++ ⟨[], [], [event e]⟩)) :
    Leaves (noteFailure event x) Q := by
  intro spans w
  obtain ⟨t, ht, hp⟩ := hx spans w
  rcases hr : x spans w with ⟨e | a, v⟩
  · rw [hr] at ht hp
    obtain ⟨u, hu, -, rfl⟩ := Leaves.note (event e) spans v
    refine ⟨t ++ ⟨[], [], [event e]⟩, ?_, ?_⟩
    · rw [← Trace.append_assoc, ← ht, ← hu]
      simp only [Generation.noteFailure, hr]
      rfl
    · simp only [Generation.noteFailure, hr]
      exact he e t hp
  · rw [hr] at ht hp
    refine ⟨t, ?_, ?_⟩
    · simpa only [Generation.noteFailure, hr] using ht
    · simpa only [Generation.noteFailure, hr] using hok a t hp

theorem Leaves.forM_note (event : α → Event) (l : List α) :
    Leaves (l.forM fun a => Generation.note (event a) : RecordedGeneration σ τ Unit)
      fun r t => r = .ok () ∧ t = ⟨[], [], l.map event⟩ := by
  induction l with
  | nil => exact Leaves.pure ()
  | cons a l ih =>
      apply (Leaves.note (event a)).bind_ok
      apply ih.mono
      rintro r u ⟨hr, rfl⟩
      exact ⟨hr, rfl⟩

theorem Leaves.ask (c : Catalog σ) (stage : Stage) (q : Request) :
    Leaves (ask (τ := τ × List Attempt) c.recorded stage q) fun r t =>
      t = ⟨[q], [], [.entering stage q.target]⟩ ∧
        ∀ e, r = .error e → ∃ reason, e = .query stage q.target reason := by
  intro spans w
  refine ⟨⟨[q], [], [.entering stage q.target]⟩, ?_, rfl, ?_⟩
  · rw [ask_apply]
    exact World.trace_asked c q w ⟨.entering stage q.target, spans⟩
  · intro e he
    rw [ask_apply] at he
    rcases h : (c.recorded.ask q w.catalog).1 with reason | a
    · rw [h] at he
      cases he
      exact ⟨reason, rfl⟩
    · rw [h] at he
      cases he

/-- The sink is called once, and its answer is the result. -/
theorem Leaves.write (k : Sink τ) (q : WriteRequest) :
    Leaves (write (σ := σ × List Request) k.recorded q) fun r t =>
      t = ⟨[], [⟨q, r⟩],
        if k.notesSkipped ∧ r = .ok .skipped then [.targetExists q.path] else []⟩ := by
  intro spans w
  refine ⟨_, ?_, rfl⟩
  rw [write_apply]
  ext1
  · simp [World.trace]
  · simp [World.trace, Sink.recorded]
  · by_cases h : k.notesSkipped ∧ (k.write q w.sink.1).1 = .ok .skipped <;>
      simp [World.trace, Sink.recorded, h]

end Leaves

/-! ## Steps with and without records -/

/-- A step with records and a step without give the same result and reach the same world. -/
def Mirrors (x : RecordedGeneration σ τ α) (y : Generation σ τ α) : Prop :=
  ∀ spans w, y spans w.forget = ((x spans w).1, (x spans w).2.forget)

theorem Mirrors.pure (a : α) :
    Mirrors (pure a : RecordedGeneration σ τ α) (pure a : Generation σ τ α) :=
  fun _ _ => rfl

theorem Mirrors.fail (f : Failure) :
    Mirrors (fail f : RecordedGeneration σ τ α) (fail f : Generation σ τ α) :=
  fun _ _ => rfl

theorem Mirrors.note (e : Event) :
    Mirrors (note e : RecordedGeneration σ τ Unit) (note e : Generation σ τ Unit) :=
  fun _ _ => rfl

theorem Mirrors.bind {x : RecordedGeneration σ τ α} {y : Generation σ τ α}
    {f : α → RecordedGeneration σ τ β} {g : α → Generation σ τ β} (hx : Mirrors x y)
    (hf : ∀ a, Mirrors (f a) (g a)) : Mirrors (x >>= f) (y >>= g) := by
  intro spans w
  rw [bind_apply, bind_apply, hx spans w]
  rcases x spans w with ⟨e | a, v⟩
  · rfl
  · exact hf a spans v

theorem Mirrors.inSpan {x : RecordedGeneration σ τ α} {y : Generation σ τ α} (s : Span)
    (hx : Mirrors x y) : Mirrors (inSpan s x) (inSpan s y) :=
  fun spans w => hx (spans ++ [s]) w

theorem Mirrors.noteFailure {x : RecordedGeneration σ τ α} {y : Generation σ τ α}
    (event : Failure → Event) (hx : Mirrors x y) :
    Mirrors (noteFailure event x) (noteFailure event y) := by
  intro spans w
  simp only [Generation.noteFailure, hx spans w]
  rcases x spans w with ⟨e | a, v⟩ <;> rfl

theorem Mirrors.mapM {f : α → RecordedGeneration σ τ β} {g : α → Generation σ τ β}
    (hf : ∀ a, Mirrors (f a) (g a)) (l : List α) : Mirrors (l.mapM f) (l.mapM g) := by
  induction l with
  | nil => exact Mirrors.pure []
  | cons a l ih =>
      simp only [List.mapM_cons]
      exact (hf a).bind fun b => ih.bind fun bs => Mirrors.pure (b :: bs)

theorem Mirrors.forM_note (event : α → Event) (l : List α) :
    Mirrors (l.forM fun a => Generation.note (event a) : RecordedGeneration σ τ Unit)
      (l.forM fun a => Generation.note (event a)) := by
  induction l with
  | nil => exact Mirrors.pure ()
  | cons a l ih => exact (Mirrors.note (event a)).bind fun _ => ih

theorem Mirrors.ask (c : Catalog σ) (stage : Stage) (q : Request) :
    Mirrors (ask (τ := τ × List Attempt) c.recorded stage q) (ask c stage q) := by
  intro spans w
  rw [ask_apply, ask_apply]
  rfl

theorem Mirrors.write (k : Sink τ) (q : WriteRequest) :
    Mirrors (write (σ := σ × List Request) k.recorded q) (write k q) := by
  intro spans w
  rw [write_apply, write_apply]
  rfl

end Generation

end EntityClasses
