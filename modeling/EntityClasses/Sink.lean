import EntityClasses.Failure

/-!
# Sinks

Where generated files go.
-/
namespace EntityClasses

inductive Outcome
  | written
  /-- The file was there and was not to be overwritten. -/
  | skipped
  deriving DecidableEq, Repr

def Outcome.name : Outcome → String
  | written => "written"
  | skipped => "skipped"

structure WriteRequest where
  path : String
  content : String
  overwrite : Bool
  deriving DecidableEq, Repr

structure Sink (τ : Type) where
  write : WriteRequest → τ → Except Failure Outcome × τ
  /-- Whether the journal is told of a file that is skipped. -/
  notesSkipped : Bool

end EntityClasses
