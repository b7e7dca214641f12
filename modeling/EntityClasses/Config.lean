import EntityClasses.Casing
import EntityClasses.Name
import EntityClasses.SortedMap

/-!
# Generation settings
-/
namespace EntityClasses

/-- What the constructor of a class takes: one parameter per member, or one keyed collection. -/
inductive ConstructorForm
  | positional
  | dictionary
  deriving DecidableEq, Repr

/-- Which repeated lines of a class are dropped: only those among imports, or all. -/
inductive Dedup
  | imports
  | allLines
  deriving DecidableEq, Repr

structure Config where
  fieldCasing : Casing
  classCasing : Casing
  stripPlural : Bool
  parseConstraints : Bool
  includeImports : Bool
  sharedNamespace : Bool
  constructorForm : ConstructorForm
  overwrite : Bool
  alwaysNullable : Bool
  allowDynamicProperties : Bool
  ignoredDatabases : SortedSet String
  saveAfterCreate : Bool
  nameSpace : String
  outputDir : String
  enumHelpers : Bool
  dedup : Dedup
  deriving DecidableEq

namespace Config

def default : Config where
  fieldCasing := .camel
  classCasing := .pascal
  stripPlural := true
  parseConstraints := true
  includeImports := true
  sharedNamespace := false
  constructorForm := .positional
  overwrite := true
  alwaysNullable := false
  allowDynamicProperties := false
  ignoredDatabases := .empty
  saveAfterCreate := true
  nameSpace := "App"
  outputDir := "."
  enumHelpers := true
  dedup := .imports

def ignore (c : Config) (database : String) : Config :=
  { c with ignoredDatabases := c.ignoredDatabases.insert database () }

def ignores (c : Config) (database : String) : Bool :=
  c.ignoredDatabases.contains database

def strip (c : Config) (name : String) : String :=
  if c.stripPlural then Name.singularize name else name

/-- Class of a table. -/
def classFor (c : Config) (table : String) : String :=
  c.strip (c.classCasing.convert table)

/-- Member for a raw name. -/
def memberFor (c : Config) (raw : String) : String :=
  c.fieldCasing.convert raw

/-- Member that holds one related entity. -/
def referenceFor (c : Config) (raw : String) : String :=
  c.strip (c.memberFor raw)

/-- Member that holds the entities which refer to this one. -/
def collectionFor (c : Config) (raw : String) : String :=
  Name.pluralize (c.memberFor raw)

end Config

end EntityClasses
