/-!
# Paths

A path is written with slashes between its components. Repeated slashes, a slash at the end and
dots behind the first component do not count, so several spellings name one path. A dot in front
does count: `./a` is not `a`.
-/
namespace EntityClasses

namespace Path

inductive Component
  | root
  | current
  | parent
  | name (s : String)
  deriving DecidableEq, Repr

namespace Component

/-- Components in order: the root, the dots, then names by their characters. -/
def rank : Component → List Nat
  | root => [0]
  | current => [1]
  | parent => [2]
  | name s => 3 :: s.toList.map Char.toNat

instance : Ord Component := ⟨fun a b => compare a.rank b.rank⟩

instance : Std.TransOrd Component where
  eq_swap {a b} := @Std.OrientedCmp.eq_swap (List Nat) compare _ a.rank b.rank
  isLE_trans {a b c} := @Std.TransCmp.isLE_trans (List Nat) compare _ a.rank b.rank c.rank

end Component

/-- What a stretch between slashes stands for behind the first component. -/
def component? (s : List Char) : Option Component :=
  if s = [] ∨ s = ['.'] then none
  else if s = ['.', '.'] then some .parent
  else some (.name (.ofList s))

def components (path : String) : List Component :=
  match path.toList with
  | [] => []
  | '/' :: r => .root :: (r.splitOn '/').filterMap component?
  | s =>
    let parts := s.splitOn '/'
    let first := if parts.head? = some ['.'] then [Component.current] else []
    first ++ parts.filterMap component?

/-- The text of a path up to its last component, without what does not count in between. -/
def parent (path : String) : String :=
  match path.toList.splitOn '/' with
  | [] => ""
  | first :: rest =>
    match rest.reverse.dropWhile fun s => (component? s).isNone with
    | [] => ""
    | _ :: above =>
      let kept := (above.dropWhile fun s => (component? s).isNone).reverse
      if first = [] ∧ kept = [] then "/" else .ofList (['/'].intercalate (first :: kept))

def isAbsolute (path : String) : Bool :=
  path.toList.head? = some '/'

/-- A file in a directory. An absolute file stays as it is; an empty directory adds nothing. -/
def join (directory file : String) : String :=
  if isAbsolute file then file
  else if directory.toList.getLast?.all (· = '/') then directory ++ file
  else directory ++ "/" ++ file

end Path

end EntityClasses
