import EntityClasses.Casing
import EntityClasses.Text.CaseMapping
import EntityClasses.UnknownOption

/-!
# Spellings of a casing

The name of a casing may itself be written in any casing: `camelCase`, `camel-case` and
`Camel Case` all name camel. A text is brought to lower-case words with single underscores between
them, and then looked up.
-/
namespace EntityClasses

namespace Casing

/-- A capital has a lower form of its own and is its own upper form. -/
def isCapital (c : Char) : Bool :=
  upperForm c != lowerForm c && upperForm c == [c]

def isSmall (c : Char) : Bool :=
  upperForm c != lowerForm c && lowerForm c == [c]

def isSeparator (c : Char) : Bool :=
  c = '_' || c = '-' || c = ' '

/-- Whether a word ends between two characters. Of several capitals in a row the last one starts a
word when a small letter `next` follows it. -/
def endsWord (left right : Char) (next : Option Char) : Bool :=
  (isSmall left && (isCapital right || right.isDigit)) ||
  (isCapital left && (right.isDigit || isCapital right && next.any isSmall)) ||
  (left.isDigit && (isSmall right || isCapital right))

/-- Lower-case words of a text, joined by underscores. -/
def spellingAfter (previous : Option Char) : List Char → List Char
  | [] => []
  | c :: r =>
    if isSeparator c then '_' :: spellingAfter (some c) r
    else if previous.any (endsWord · c r.head?) then
      '_' :: lowerForm c ++ spellingAfter (some c) r
    else lowerForm c ++ spellingAfter (some c) r

def spelling (text : String) : String :=
  .ofList (spellingAfter none (trim text.toList))

def ofSpelling? (s : String) : Option Casing :=
  if s ∈ ["camel", "camel_case", "lower_camel", "lower_camel_case"] then some camel
  else if s ∈ ["pascal", "pascal_case", "upper_camel", "upper_camel_case"] then some pascal
  else if s ∈ ["snake", "snake_case"] then some snake
  else if s ∈ ["none", "unchanged", "as_is"] then some unchanged
  else none

def parse (text : String) : Except UnknownOption Casing :=
  match ofSpelling? (spelling text) with
  | some k => .ok k
  | none => .error ⟨.casing, text⟩

end Casing

end EntityClasses
