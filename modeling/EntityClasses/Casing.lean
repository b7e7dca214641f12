import EntityClasses.Text.WhiteSpace

/-!
# Letter casing of identifiers

A casing first turns every run of white space into one underscore. Camel and Pascal then join the
words between underscores, snake splits in front of ASCII capitals. Only ASCII letters change case.
-/
namespace EntityClasses

inductive Casing
  | camel
  | pascal
  | snake
  | unchanged
  deriving DecidableEq, Repr

namespace Casing

/-- A run of blanks leaves one underscore, at its last blank. -/
def underscoreBlanks : List Char → List Char
  | [] => []
  | c :: r =>
    if isBlank c then
      if r.head?.any isBlank then underscoreBlanks r else '_' :: underscoreBlanks r
    else c :: underscoreBlanks r

def capitalized : List Char → List Char
  | [] => []
  | c :: r => c.toUpper :: r

def decapitalized : List Char → List Char
  | [] => []
  | c :: r => c.toLower :: r

def joinCapitalized (s : List Char) : List Char :=
  (s.splitOn '_').flatMap capitalized

def snakeLetter (c : Char) : List Char :=
  if c.isUpper then ['_', c.toLower] else [c]

/-- No underscore goes in front of the first character. -/
def splitCapitals : List Char → List Char
  | [] => []
  | c :: r => c.toLower :: r.flatMap snakeLetter

def apply (k : Casing) (s : List Char) : List Char :=
  match k with
  | camel => decapitalized (joinCapitalized (underscoreBlanks s))
  | pascal => joinCapitalized (underscoreBlanks s)
  | snake => splitCapitals (underscoreBlanks s)
  | unchanged => underscoreBlanks s

def convert (k : Casing) (raw : String) : String :=
  .ofList (k.apply raw.toList)

def name : Casing → String
  | camel => "camel"
  | pascal => "pascal"
  | snake => "snake"
  | unchanged => "none"

end Casing

end EntityClasses
