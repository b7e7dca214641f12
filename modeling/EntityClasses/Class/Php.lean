import EntityClasses.Class.Layout
import EntityClasses.Php
import EntityClasses.Text.Lines
import EntityClasses.Text.Quoted

/-!
# PHP classes

Typed properties and a constructor; related classes are loaded with `require_once` and, in a shared
namespace, named by `use`.
-/
namespace EntityClasses.Php

def useLines (c : Config) (l : ClassLayout) : List String :=
  l.builtins.map (fun b => "use " ++ b ++ ";") ++
    if c.sharedNamespace && !c.nameSpace.isEmpty then
      l.dependencies.map fun d => "use " ++ c.nameSpace ++ "\\" ++ d ++ ";"
    else []

def requireLines (c : Config) (l : ClassLayout) : List String :=
  if c.includeImports then
    l.dependencies.map fun d => "require_once __DIR__ . '/" ++ d ++ ".php';"
  else []

/-- Collections are plain arrays; a question mark stands in front of a nullable type. -/
def typeText (m : Member) : String :=
  let name := match m.kind with
    | .column typeName _ => typeName
    | .reference className => className
    | .collection _ => "array"
  if m.nullable then "?" ++ name else name

def docLines (m : Member) : List String :=
  match m.kind with
  | .column _ (some note) => ["    /** " ++ note ++ " */"]
  | .collection className => ["    /** @var " ++ className ++ "[] */"]
  | _ => []

def propertyLines (m : Member) : List String :=
  docLines m ++ ["    public " ++ typeText m ++ " $" ++ m.name ++ ";"]

def parameters (c : Config) (l : ClassLayout) : String :=
  match c.constructorForm with
  | .positional => ", ".intercalate (l.members.map fun m => typeText m ++ " $" ++ m.name)
  | .dictionary => "array $input"

def assignment (c : Config) (m : Member) : String :=
  let value := match c.constructorForm with
    | .positional => "$" ++ m.name
    | .dictionary =>
      "$input[" ++ quoted m.key ++ "]" ++ if c.alwaysNullable then " ?? null" else ""
  "        $this->" ++ m.name ++ " = " ++ value ++ ";"

def constructorLines (c : Config) (l : ClassLayout) : List String :=
  ["    public function __construct(" ++ parameters c l ++ ")", "    \x7b"] ++
    l.members.map (assignment c) ++ ["    \x7d"]

def classLines (c : Config) (l : ClassLayout) : List String :=
  opening c ++ block (useLines c l) ++ block (requireLines c l) ++
    (if c.allowDynamicProperties then ["#[\\AllowDynamicProperties]"] else []) ++
    ["class " ++ l.className, "\x7b"] ++ block (l.members.flatMap propertyLines) ++
    constructorLines c l ++ ["\x7d"]

end EntityClasses.Php
