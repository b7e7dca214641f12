import EntityClasses.Inflection.Singular
import EntityClasses.Text.CaseMapping
import EntityClasses.Text.Numeric

/-!
# Plural and singular names

Only the last word of a name is inflected. It starts behind the last character that is not
alphanumeric, or at a capital behind a small letter or a digit. The inflected word takes over the
capitals of the word: all of them, or the first.
-/
namespace EntityClasses.Name

/-- Whether a capital behind this character starts a word. -/
def precedesCapital (c : Char) : Bool :=
  isLowercase c || c.isDigit

/-- Splits a text at its last word boundary, if it has one; `previous` stands in front of it. -/
def splitLast? (previous : Option Char) : List Char → Option (List Char × List Char)
  | [] => none
  | c :: r =>
    match splitLast? (some c) r with
    | some (head, word) => some (c :: head, word)
    | none =>
      if !isAlphanumeric c then some ([c], r)
      else if isUppercase c && previous.any precedesCapital then some ([], c :: r)
      else none

/-- The characters before the last word, and the last word. -/
def lastWord (name : List Char) : List Char × List Char :=
  (splitLast? none name).getD ([], name)

def startsUpper (word : List Char) : Bool :=
  word.head?.any isUppercase

/-- A capital that stands alone counts as fully upper-case only outside ASCII. -/
def isFullyUpper (word : List Char) : Bool :=
  startsUpper word && (String.ofList word).utf8ByteSize > 1 && !word.any isLowercase

def capitalized : List Char → List Char
  | [] => []
  | c :: r => upperForm c ++ r

/-- Gives an inflected word the capitals of the word it comes from. -/
def recase (word inflected : List Char) : List Char :=
  if isFullyUpper word then upperText inflected
  else if startsUpper word then capitalized inflected
  else inflected

def inflectWord (inflect : String → String) (word : List Char) : List Char :=
  recase word (inflect (.ofList (lowerText word))).toList

def inflect (inflect : String → String) (name : String) : String :=
  let (head, word) := lastWord name.toList
  if word.isEmpty then name else .ofList (head ++ inflectWord inflect word)

def pluralize (name : String) : String :=
  inflect Inflection.plural name

def singularize (name : String) : String :=
  inflect Inflection.singular name

end EntityClasses.Name
