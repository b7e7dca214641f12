import EntityClasses.Path

/-!
# Generated files
-/
namespace EntityClasses

structure Artifact where
  className : String
  extension : String
  content : String
  deriving DecidableEq, Repr

namespace Artifact

def fileName (a : Artifact) : String :=
  a.className ++ "." ++ a.extension

def path (a : Artifact) (outputDir : String) : String :=
  Path.join outputDir a.fileName

end Artifact

end EntityClasses
