import EntityClasses.Class.Layout
import EntityClasses.Proofs.Text.Scan

/-!
# Reading classes

A reader of class files, for both dialects. It goes through the lines: the header, one declaration a
member with a comment in front of some, the constructor, and one assignment a member. Names and
types end at a space, all else at the end of the line, so it does not matter which other characters
they hold.
-/
namespace EntityClasses

/-! ## What a class shows -/

structure ShownType where
  name : String
  nullable : Bool
  deriving DecidableEq, Repr

structure ShownMember where
  name : String
  type : ShownType
  note : Option String
  deriving DecidableEq, Repr

structure ShownParameter where
  name : String
  type : Option ShownType
  deriving DecidableEq, Repr

inductive ShownConstructor
  /-- Members are assigned from parameters. -/
  | positional (parameters : List ShownParameter) (assignments : List (String × String))
  /-- Members are assigned from keys, with or without null in place of a missing one. -/
  | dictionary (assignments : List (String × String × Bool))
  deriving DecidableEq, Repr

structure ShownClass where
  name : String
  members : List ShownMember
  construction : ShownConstructor
  deriving DecidableEq, Repr

/-- What the constructor of a class shows, if `parameter` is what it shows of each member. -/
def ClassLayout.shownConstruction (l : ClassLayout) (c : Config)
    (parameter : Member → ShownParameter) : ShownConstructor :=
  match c.constructorForm with
  | .positional =>
    .positional (l.members.map parameter) (l.members.map fun m => (m.name, m.name))
  | .dictionary => .dictionary (l.members.map fun m => (m.name, m.key, c.alwaysNullable))

/-! ## The reader -/

/-- How classes are written in a dialect. -/
structure ClassSyntax where
  headerStart : List Char
  headerEnd : List Char
  opened : List (List Char)
  /-- Reads a declaration and the comment in front of it. -/
  member? : Option (List Char) → List Char → Option ShownMember
  constructorStart : List Char
  constructorEnd : List Char
  constructorOpened : List (List Char)
  /-- Reads the parameters, given the members. -/
  parameters? : List ShownMember → List Char → Option (List ShownParameter)
  /-- The only parameter of a keyed constructor. -/
  collection : List Char
  receiver : List Char
  /-- Reads an assigned parameter. -/
  source? : List Char → Option String
  /-- Reads an assigned key. -/
  key? : List Char → Option (String × Bool)

inductive MemberLine
  | comment (text : List Char)
  | declaration (text : List Char)
  deriving DecidableEq, Repr

def memberLine? (line : List Char) : Option MemberLine :=
  match between? "    /** ".toList " */".toList line with
  | some text => some (.comment text)
  | none => (between? "    ".toList ";".toList line).map .declaration

/-- Reads what follows an assigned key. -/
def nullFallback? (text : List Char) : Option Bool :=
  if text = [] then some false else if text = " ?? null".toList then some true else none

/-- Reads a quoted key from behind its opening quote, in brackets. -/
def quotedKey? (text : List Char) : Option (String × Bool) := do
  let (key, rest) ← unquote text
  let fallback ← nullFallback? (← rest.dropPrefix? "]".toList)
  return (.ofList key, fallback)

/-- An empty line separates the members, if there are any, from the constructor. -/
def behindMembers? (members : List ShownMember) (lines : List (List Char)) :
    Option (List (List Char)) :=
  if members.isEmpty then some lines else lines.dropPrefix? [[]]

/-- The lines that end a class. -/
def closingLines : List (List Char) :=
  ["    \x7d".toList, "\x7d".toList, []]

namespace ClassSyntax

variable (x : ClassSyntax)

def readMembers : Option (List Char) → List MemberLine → Option (List ShownMember)
  | none, [] => some []
  | some _, [] => none
  | _, .comment text :: rest => readMembers (some text) rest
  | comment, .declaration text :: rest => do
      let m ← x.member? comment text
      let ms ← readMembers none rest
      return m :: ms

def assignment? (line : List Char) : Option (String × List Char) := do
  let (name, rest) := cutWord (← line.dropPrefix? ("        ".toList ++ x.receiver))
  let value ← between? " = ".toList ";".toList rest
  return (.ofList name, value)

def construction? (form : ConstructorForm) (members : List ShownMember) (parameters : List Char)
    (assignments : List (String × List Char)) : Option ShownConstructor :=
  match form with
  | .positional => do
      let ps ← x.parameters? members parameters
      let sources ← assignments.mapM fun a => (x.source? a.2).map (a.1, ·)
      return .positional ps sources
  | .dictionary => do
      let keys ← assignments.mapM fun a => (x.key? a.2).map (a.1, ·)
      if parameters = x.collection then return .dictionary keys else none

def readConstructor (form : ConstructorForm) (members : List ShownMember) :
    List (List Char) → Option ShownConstructor
  | [] => none
  | line :: rest => do
      let parameters ← between? x.constructorStart x.constructorEnd line
      let (assignments, rest) := readRun x.assignment? (← rest.dropPrefix? x.constructorOpened)
      if rest = closingLines then x.construction? form members parameters assignments else none

def readLines (form : ConstructorForm) (lines : List (List Char)) : Option ShownClass := do
  let (name, rest) ← readFirst (between? x.headerStart x.headerEnd) lines
  let (memberLines, rest) := readRun memberLine? (← rest.dropPrefix? x.opened)
  let members ← x.readMembers none memberLines
  let construction ← x.readConstructor form members (← behindMembers? members rest)
  return ⟨.ofList name, members, construction⟩

def read (form : ConstructorForm) (text : String) : Option ShownClass :=
  x.readLines form (text.toList.splitOn '\n')

end ClassSyntax

end EntityClasses
