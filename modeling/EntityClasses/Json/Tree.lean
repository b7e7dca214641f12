import EntityClasses.Json.Number
import EntityClasses.Json.Text

/-!
# Documents

What is read of a JSON text, in the order of the text. A place where the text ceases to be JSON is
marked `broken`; what stands in front of it is kept, so that the first fault of a text is the first
one met on a walk through its tree. Strings with a surrogate that stands alone are well formed but
have no text.
-/
namespace EntityClasses.Json

inductive Tree
  | null
  | bool (b : Bool)
  | number (n : NumberLiteral)
  | text (s : Option String)
  | array (items : List Tree)
  | object (members : List (Option String × Tree))
  | broken

mutual

/-- Whether a part of a document is well formed. -/
def Tree.sound : Tree → Bool
  | .array items => soundItems items
  | .object members => soundMembers members
  | .broken => false
  | _ => true

def Tree.soundItems : List Tree → Bool
  | [] => true
  | t :: r => t.sound && soundItems r

def Tree.soundMembers : List (Option String × Tree) → Bool
  | [] => true
  | (_, t) :: r => t.sound && soundMembers r

end

/-- A tree, and whether its text is the whole of the text that was read. -/
structure Document where
  tree : Tree
  whole : Bool

/-- A text between quotes; broken at a control character or at an unknown escape. -/
def Tree.ofLiteral (raw : List Char) : Option (Option String) :=
  (pieces? raw).map fun ps => (joinPieces? ps).map .ofList

/-- A word outside of quotes. -/
def Tree.ofWord? (word : List Char) : Option Tree :=
  if word = ['n', 'u', 'l', 'l'] then some .null
  else if word = ['t', 'r', 'u', 'e'] then some (.bool true)
  else if word = ['f', 'a', 'l', 's', 'e'] then some (.bool false)
  else (NumberLiteral.parse? word).map .number

end EntityClasses.Json
