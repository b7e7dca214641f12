import EntityClasses.Proofs.Generation.Table

/-!
# Where a step ends

A step that is run on given states of catalog and sink has one result and ends in one pair of
states; only what it notes depends on more. Steps in a row are followed from state to state.
-/
namespace EntityClasses

variable {σ τ α β : Type}

namespace Generation

/-- From the states `s` and `k` of catalog and sink the step ends with the result `r` in the states
`s'` and `k'`, and the journal only grows. -/
def Reaches (s : σ) (k : τ) (x : Generation σ τ α) (r : Except Failure α) (s' : σ) (k' : τ) : Prop :=
  ∀ spans w, w.catalog = s → w.sink = k →
    ∃ entries, x spans w = (r, ⟨s', k', w.journal ++ entries⟩)

section Reaches

variable {s s' s'' : σ} {k k' k'' : τ}

theorem Reaches.pure (a : α) : Reaches s k (pure a : Generation σ τ α) (.ok a) s k := by
  rintro spans w rfl rfl
  exact ⟨[], by rw [List.append_nil]; rfl⟩

theorem Reaches.fail (f : Failure) : Reaches s k (fail f : Generation σ τ α) (.error f) s k := by
  rintro spans w rfl rfl
  exact ⟨[], by rw [List.append_nil]; rfl⟩

theorem Reaches.note (e : Event) : Reaches s k (note e : Generation σ τ Unit) (.ok ()) s k := by
  rintro spans w rfl rfl
  exact ⟨[⟨e, spans⟩], rfl⟩

theorem Reaches.inSpan {x : Generation σ τ α} {r : Except Failure α} (span : Span)
    (hx : Reaches s k x r s' k') : Reaches s k (inSpan span x) r s' k' :=
  fun spans => hx (spans ++ [span])

theorem Reaches.bind_ok {x : Generation σ τ α} {f : α → Generation σ τ β} {a : α}
    {r : Except Failure β} (hx : Reaches s k x (.ok a) s' k') (hf : Reaches s' k' (f a) r s'' k'') :
    Reaches s k (x >>= f) r s'' k'' := by
  intro spans w hs hk
  obtain ⟨entries, hx⟩ := hx spans w hs hk
  obtain ⟨more, hf⟩ := hf spans ⟨s', k', w.journal ++ entries⟩ rfl rfl
  refine ⟨entries ++ more, ?_⟩
  rw [bind_apply, hx, ← List.append_assoc]
  exact hf

theorem Reaches.bind_error {x : Generation σ τ α} {e : Failure} (hx : Reaches s k x (.error e) s' k')
    (f : α → Generation σ τ β) : Reaches s k (x >>= f) (.error e) s' k' := by
  intro spans w hs hk
  obtain ⟨entries, hx⟩ := hx spans w hs hk
  refine ⟨entries, ?_⟩
  rw [bind_apply, hx]

theorem Reaches.ask {c : Catalog σ} {q : Request} {answer : Except String q.Answer}
    (stage : Stage) (h : c.ask q s = (answer, s')) :
    Reaches s k (ask c stage q : Generation σ τ q.Answer)
      (answer.mapError (.query stage q.target)) s' k := by
  rintro spans w rfl rfl
  refine ⟨[⟨.entering stage q.target, spans⟩], ?_⟩
  rw [ask_apply, h]

theorem Reaches.write {p : Sink τ} {q : WriteRequest} {answer : Except Failure Outcome}
    (h : p.write q k = (answer, k')) : Reaches s k (write p q : Generation σ τ Outcome) answer s k' := by
  rintro spans w rfl rfl
  rw [write_apply, h]
  by_cases hskipped : p.notesSkipped ∧ answer = .ok .skipped
  · exact ⟨[⟨.targetExists q.path, spans⟩], by rw [if_pos hskipped]⟩
  · exact ⟨[], by rw [if_neg hskipped, List.append_nil]⟩

theorem Reaches.noteFailure {x : Generation σ τ α} {r : Except Failure α} (event : Failure → Event)
    (hx : Reaches s k x r s' k') : Reaches s k (noteFailure event x) r s' k' := by
  intro spans w hs hk
  obtain ⟨entries, hx⟩ := hx spans w hs hk
  unfold Generation.noteFailure
  rw [hx]
  cases r with
  | ok a => exact ⟨entries, rfl⟩
  | error f =>
      refine ⟨entries ++ [⟨event f, spans⟩], ?_⟩
      rw [← List.append_assoc]
      rfl

end Reaches

end Generation

namespace Generator

open Generation

variable {s : σ} {k k' : τ} {g : Generator σ τ} {a : Artifact}

theorem deliver_unsaved (h : g.config.saveAfterCreate = false) :
    Reaches s k (g.deliver a) (.ok a) s k := by
  unfold deliver
  simp only [h]
  exact (Reaches.note _).bind_ok (Reaches.pure a)

theorem deliver_saved {answer : Except Failure Outcome} (h : g.config.saveAfterCreate = true)
    (hwrite : g.sink.write (a.toRequest g.config) k = (answer, k')) :
    Reaches s k (g.deliver a) (answer.map fun _ => a) s k' := by
  unfold deliver
  simp only [h, if_true]
  have hstep : Reaches s k (write g.sink (a.toRequest g.config)) answer s k' := Reaches.write hwrite
  cases answer with
  | error f => exact hstep.bind_error _
  | ok o => exact hstep.bind_ok ((Reaches.note _).bind_ok (Reaches.pure a))

end Generator

end EntityClasses
