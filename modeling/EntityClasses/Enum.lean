import EntityClasses.Artifact
import EntityClasses.Dialect
import EntityClasses.Enum.Layout
import EntityClasses.Php
import EntityClasses.Text.Lines

/-!
# Enumeration files

The constants of an enumeration and, if wanted, two helpers: a map from labels to values and the
list of labels.
-/
namespace EntityClasses

namespace EnumLayout

/-- The constants, and the helpers behind an empty line. -/
def body (c : Config) (constants helpers : List String) : List String :=
  if c.enumHelpers then block constants ++ helpers else constants

/-- A label as an element of a list. -/
def listEntry (k : Constant) : String :=
  "            " ++ quoted k.label ++ ","

def phpConstant (k : Constant) : String :=
  "    const " ++ k.name ++ " = " ++ k.literal ++ ";"

def phpMapEntry (k : Constant) : String :=
  "            " ++ quoted k.label ++ " => " ++ k.literal ++ ","

def phpHelpers (ks : List Constant) : List String :=
  ["    public static function toMap(): array", "    \x7b", "        return ["] ++
    ks.map phpMapEntry ++
    ["        ];", "    \x7d", "", "    public static function toArray(): array", "    \x7b",
     "        return ["] ++
    ks.map listEntry ++
    ["        ];", "    \x7d"]

def phpLines (c : Config) (l : EnumLayout) : List String :=
  Php.opening c ++ ["class " ++ l.className, "\x7b"] ++
    body c (l.constants.map phpConstant) (phpHelpers l.constants) ++ ["\x7d"]

def javaScriptConstant (k : Constant) : String :=
  "    static " ++ k.name ++ " = " ++ k.literal ++ ";"

def javaScriptMapEntry (k : Constant) : String :=
  "            " ++ quoted k.label ++ ": " ++ k.literal ++ ","

def javaScriptHelpers (ks : List Constant) : List String :=
  ["    static toMap() \x7b", "        return \x7b"] ++
    ks.map javaScriptMapEntry ++
    ["        \x7d;", "    \x7d", "", "    static toArray() \x7b", "        return ["] ++
    ks.map listEntry ++
    ["        ];", "    \x7d"]

def javaScriptLines (c : Config) (l : EnumLayout) : List String :=
  ["export class " ++ l.className ++ " \x7b"] ++
    body c (l.constants.map javaScriptConstant) (javaScriptHelpers l.constants) ++ ["\x7d"]

def lines (d : Dialect) (c : Config) (l : EnumLayout) : List String :=
  match d with
  | .php => phpLines c l
  | .javaScript => javaScriptLines c l

def artifact (d : Dialect) (c : Config) (l : EnumLayout) : Artifact :=
  ⟨l.className, d.extension, unlines (l.lines d c)⟩

end EnumLayout

def enumArtifact (d : Dialect) (c : Config) (s : EnumSource) : Except Failure Artifact :=
  (EnumLayout.build c s).map (EnumLayout.artifact d c)

end EntityClasses
