import EntityClasses.Path
import EntityClasses.Sink
import EntityClasses.SortedMap

/-!
# Files kept in memory

Files under the components of their paths, so that two spellings of one path name one file. A file
keeps the spelling under which it was stored first.
-/
namespace EntityClasses

structure StoredFile where
  path : String
  content : String
  deriving DecidableEq, Repr

abbrev MemoryFiles := SortedMap (List Path.Component) StoredFile

namespace MemoryFiles

def get? (files : MemoryFiles) (path : String) : Option String :=
  (SortedMap.get? files (Path.components path)).map (·.content)

def write (w : WriteRequest) (files : MemoryFiles) : Except Failure Outcome × MemoryFiles :=
  let key := Path.components w.path
  match SortedMap.get? files key with
  | some f =>
    if w.overwrite then (.ok .written, files.insert key { f with content := w.content })
    else (.ok .skipped, files)
  | none => (.ok .written, files.insert key ⟨w.path, w.content⟩)

/-- The stored files in the order of their components. -/
def toList (files : MemoryFiles) : List StoredFile :=
  files.entries.map Prod.snd

end MemoryFiles

def Sink.memory : Sink MemoryFiles where
  write := MemoryFiles.write
  notesSkipped := true

end EntityClasses
