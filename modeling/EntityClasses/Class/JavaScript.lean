import EntityClasses.Class.Layout
import EntityClasses.Text.Lines
import EntityClasses.Text.Quoted

/-!
# JavaScript classes

ES modules: fields with a type comment and a constructor; related classes are imported.
-/
namespace EntityClasses.JavaScript

def importLines (c : Config) (l : ClassLayout) : List String :=
  if c.includeImports then
    l.dependencies.map fun d => "import \x7b " ++ d ++ " \x7d from './" ++ d ++ ".mjs';"
  else []

def typeText (m : Member) : String :=
  let name := match m.kind with
    | .column typeName _ => typeName
    | .reference className => className
    | .collection className => className ++ "[]"
  if m.nullable then name ++ "|null" else name

def note (m : Member) : String :=
  match m.kind with
  | .column _ (some note) => " " ++ note
  | _ => ""

def fieldLines (m : Member) : List String :=
  ["    /** @type \x7b" ++ typeText m ++ "\x7d" ++ note m ++ " */",
   "    " ++ m.name ++ (if m.nullable then " = null" else "") ++ ";"]

def startsIdentifier (c : Char) : Bool :=
  c.isAlpha || c = '_' || c = '$'

/-- Identifiers of ASCII letters, digits, `_` and `$`. -/
def isPlainKey (key : List Char) : Bool :=
  match key with
  | [] => false
  | c :: r => startsIdentifier c && r.all fun d => startsIdentifier d || d.isDigit

/-- A member of an object, in brackets unless the key is an identifier. -/
def memberAccess (object key : String) : String :=
  if isPlainKey key.toList then object ++ "." ++ key else object ++ "[" ++ quoted key ++ "]"

def parameters (c : Config) (l : ClassLayout) : String :=
  match c.constructorForm with
  | .positional => ", ".intercalate (l.members.map (·.name))
  | .dictionary => "data"

def assignment (c : Config) (m : Member) : String :=
  let value := match c.constructorForm with
    | .positional => m.name
    | .dictionary => memberAccess "data" m.key ++ if c.alwaysNullable then " ?? null" else ""
  "        this." ++ m.name ++ " = " ++ value ++ ";"

def constructorLines (c : Config) (l : ClassLayout) : List String :=
  ["    constructor(" ++ parameters c l ++ ") \x7b"] ++ l.members.map (assignment c) ++
    ["    \x7d"]

def classLines (c : Config) (l : ClassLayout) : List String :=
  block (importLines c l) ++ ["export class " ++ l.className ++ " \x7b"] ++
    block (l.members.flatMap fieldLines) ++ constructorLines c l ++ ["\x7d"]

end EntityClasses.JavaScript
