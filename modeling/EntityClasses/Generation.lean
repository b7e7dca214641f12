import EntityClasses.Catalog
import EntityClasses.Journal

/-!
# Steps of a generation run

A step works on a world: the state of a catalog, the state of a sink and the journal. It succeeds or
fails, and the world it has reached stays in either case. The open spans are handed down to the
steps inside.
-/
namespace EntityClasses

structure World (σ τ : Type) where
  catalog : σ
  sink : τ
  journal : List Entry

abbrev Generation (σ τ : Type) := ReaderT (List Span) (ExceptT Failure (StateM (World σ τ)))

namespace Generation

variable {σ τ α : Type}

def run (step : Generation σ τ α) (w : World σ τ) : Except Failure α × World σ τ :=
  step [] w

def note (e : Event) : Generation σ τ Unit :=
  fun spans w => (.ok (), { w with journal := w.journal ++ [⟨e, spans⟩] })

def inSpan (s : Span) (step : Generation σ τ α) : Generation σ τ α :=
  fun spans => step (spans ++ [s])

def fail (f : Failure) : Generation σ τ α :=
  fun _ w => (.error f, w)

def ofResult : Except Failure α → Generation σ τ α
  | .ok a => pure a
  | .error f => fail f

/-- Notes the failure of a step and fails all the same. -/
def noteFailure (e : Failure → Event) (step : Generation σ τ α) : Generation σ τ α :=
  fun spans w =>
    match step spans w with
    | (.ok a, w) => (.ok a, w)
    | (.error f, w) => (note (e f) *> fail f : Generation σ τ α) spans w

/-- Enters a stage with a request; a refusal fails at that stage. -/
def ask (c : Catalog σ) (stage : Stage) (q : Request) : Generation σ τ q.Answer := do
  note (.entering stage q.target)
  fun _ w =>
    match c.ask q w.catalog with
    | (.ok a, s) => (.ok a, { w with catalog := s })
    | (.error reason, s) => (.error (.query stage q.target reason), { w with catalog := s })

/-- Hands a file to a sink, which may want it noted if it skips the file. -/
def write (k : Sink τ) (r : WriteRequest) : Generation σ τ Outcome := do
  let outcome ← fun _ w =>
    match k.write r w.sink with
    | (.ok o, t) => (.ok o, { w with sink := t })
    | (.error f, t) => (.error f, { w with sink := t })
  if k.notesSkipped ∧ outcome = .skipped then note (.targetExists r.path)
  return outcome

end Generation

end EntityClasses
