import EntityClasses.Path
import EntityClasses.Sink
import EntityClasses.SortedMap

/-!
# Files in a directory

A tree of directories and files around a working directory. A file or directory has a location: the
way to it from the working directory, or from the root, with no step that a later one takes back.
Paths are walked component by component, and a walk ends at anything that is not a directory. The
root, the working directory and the directories above it are always there. Besides, a file system
has its own say about which texts are names and paths at all.
-/
namespace EntityClasses

/-- The root or steps up, if any, and then names. -/
abbrev Location := List Path.Component

namespace Location

/-- The root is above itself. -/
def above (l : Location) : Location :=
  match l.getLast? with
  | some .root => l
  | some (.name _) => l.dropLast
  | _ => l ++ [.parent]

/-- The names on the way down, for a location inside the working directory. -/
def names? (l : Location) : Option (List String) :=
  l.mapM fun
    | .name s => some s
    | _ => none

end Location

structure FileSystem where
  /-- Whether a text can be a name in a directory. -/
  isName : String → Bool
  /-- Whether a text can be given as a path at all. -/
  isPath : String → Bool

namespace FileSystem

/-- A name holds at most so many bytes. -/
def nameLimit : Nat := 255

/-- A path holds at most so many bytes. -/
def pathLimit : Nat := 4095

def hasNul (s : String) : Bool :=
  s.toList.contains '\x00'

def usual : FileSystem where
  isName s := s.utf8ByteSize ≤ nameLimit
  isPath path := path.utf8ByteSize ≤ pathLimit && !hasNul path

/-- Takes every text. -/
def boundless : FileSystem where
  isName _ := true
  isPath _ := true

end FileSystem

structure Directory where
  system : FileSystem
  files : SortedMap Location String
  /-- All directories that have a name of their own. -/
  directories : SortedSet Location

namespace Directory

def emptyOn (system : FileSystem) : Directory := ⟨system, .empty, .empty⟩

def empty : Directory := emptyOn .usual

def isDirectory (d : Directory) (l : Location) : Bool :=
  match l.getLast? with
  | some (.name _) => d.directories.contains l
  | _ => true

/-- One step of a walk to a directory that exists. -/
def enter? (d : Directory) (l : Location) : Path.Component → Option Location
  | .root => some [.root]
  | .current => some l
  | .parent => some l.above
  | .name s =>
    if d.system.isName s && d.isDirectory (l ++ [.name s]) then some (l ++ [.name s]) else none

/-- One step of a walk that makes the directories it needs. -/
def make? (d : Directory) (l : Location) : Path.Component → Option (Location × Directory)
  | .name s =>
    if !d.system.isName s || (d.files.get? (l ++ [.name s])).isSome then none
    else some (l ++ [.name s], { d with directories := d.directories.insert (l ++ [.name s]) () })
  | c => (d.enter? l c).map (·, d)

def walk? (d : Directory) (l : Location) : List Path.Component → Option Location
  | [] => some l
  | c :: r => (d.enter? l c).bind fun l => walk? d l r

/-- Directories that were made stay, also when the walk fails further on. -/
def makeAll (d : Directory) (l : Location) : List Path.Component → Option Location × Directory
  | [] => (some l, d)
  | c :: r =>
    match d.make? l c with
    | some (l, d) => makeAll d l r
    | none => (none, d)

/-- A slash or a dot at the end of a path asks for a directory. -/
def asksDirectory (path : String) : Bool :=
  match (path.toList.splitOn '/').getLast? with
  | some last => last = [] || last = ['.'] || last = ['.', '.']
  | none => true

/-- The file that a path names, if there is one. -/
def get? (d : Directory) (path : String) : Option String :=
  match (Path.components path).getLast? with
  | some (.name s) =>
    if d.system.isPath path && !asksDirectory path && d.system.isName s then
      (d.walk? [] (Path.components path).dropLast).bind fun l =>
        d.files.get? (l ++ [.name s])
    else none
  | _ => none

def exists? (d : Directory) (path : String) : Bool :=
  (d.get? path).isSome ||
    (d.system.isPath path && path ≠ "" && (d.walk? [] (Path.components path)).isSome)

/-- Puts a file at a location whose directory exists. -/
def put? (d : Directory) (l : Location) (s content : String) : Option Directory :=
  if d.system.isName s && !d.isDirectory (l ++ [.name s]) then
    some { d with files := d.files.insert (l ++ [.name s]) content }
  else none

/-- The directory of the file is made first, also if the file is then skipped. Nothing is made if
the path of that directory is no path. -/
def write (w : WriteRequest) (d : Directory) : Except Failure Outcome × Directory :=
  let failed : Except Failure Outcome := .error (.write w.path)
  if !d.system.isPath (Path.parent w.path) then (failed, d)
  else
    match makeAll d [] (Path.components w.path).dropLast with
    | (none, d) => (failed, d)
    | (some l, d) =>
      if !w.overwrite && d.exists? w.path then (.ok .skipped, d)
      else
        match (Path.components w.path).getLast? with
        | some (.name s) =>
          if d.system.isPath w.path && !asksDirectory w.path then
            match d.put? l s w.content with
            | some d => (.ok .written, d)
            | none => (failed, d)
          else (failed, d)
        | _ => (failed, d)

/-- The files inside the working directory as paths and contents, ordered by the text of the
path. -/
def toList (d : Directory) : List (String × String) :=
  (SortedMap.ofList (d.files.entries.filterMap fun (l, content) =>
    l.names?.map fun names => ("/".intercalate names, content))).entries

/-- Makes a directory and those above it. -/
def addDirectory (d : Directory) (path : String) : Directory :=
  (makeAll d [] (Path.components path)).2

end Directory

def Sink.directory : Sink Directory where
  write := Directory.write
  notesSkipped := true

end EntityClasses
