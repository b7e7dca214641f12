import EntityClasses.Column
import EntityClasses.Dialect
import EntityClasses.Failure
import EntityClasses.Type.Declared

/-!
# Column types in a dialect

Each dialect has its own table of base types. Its native names are its primitives and its built-in
classes.
-/
namespace EntityClasses

namespace Dialect

/-- The base types that a dialect knows, each with its name there. -/
def types : Dialect → List (String × String)
  | php =>
    [("int", "int"), ("bigint", "int"), ("tinyint", "bool"), ("bit", "bool"), ("decimal", "float"),
     ("double", "float"), ("float", "float"), ("varchar", "string"), ("longtext", "string"),
     ("text", "string"), ("timestamp", "string"), ("date", "string"), ("datetime", "string")]
  | javaScript =>
    [("int", "number"), ("bigint", "number"), ("tinyint", "boolean"), ("bit", "boolean"),
     ("decimal", "number"), ("double", "number"), ("float", "number"), ("varchar", "string"),
     ("longtext", "string"), ("text", "string"), ("timestamp", "string"), ("date", "string"),
     ("datetime", "Date")]

def typeFor? (d : Dialect) (keyword : String) : Option String :=
  d.types.lookup keyword

def primitives : Dialect → List String
  | php => ["int", "string", "bool", "float", "array"]
  | javaScript => ["string", "number", "boolean"]

def builtIns : Dialect → List String
  | php => ["DateTime", "Exception"]
  | javaScript => ["Date", "Array", "Object"]

def isPrimitive (d : Dialect) (name : String) : Bool :=
  d.primitives.contains name

def isBuiltIn (d : Dialect) (name : String) : Bool :=
  d.builtIns.contains name

def isNative (d : Dialect) (name : String) : Bool :=
  d.isPrimitive name || d.isBuiltIn name

end Dialect

/-- A column with its type in a dialect. -/
structure TypedColumn where
  name : String
  typeName : String
  note : Option String
  nullable : Bool
  deriving DecidableEq, Repr

namespace Column

def keyword (c : Column) : String :=
  String.ofList (Declared.keyword c.declared.toList)

/-- The note on the parameters of a column's type. -/
def note? (c : Column) : Option String :=
  Declared.note? c.keyword c.declared.toList

def typed (d : Dialect) (c : Column) : Except Failure TypedColumn :=
  match d.typeFor? c.keyword with
  | some typeName => .ok ⟨c.name, typeName, c.note?, c.nullable⟩
  | none => .error (.unrecognizedType c.keyword c.declared)

end Column

/-- The first column with an unrecognized type decides the failure. -/
def typeColumns (d : Dialect) (columns : List Column) : Except Failure (List TypedColumn) :=
  columns.mapM (Column.typed d)

end EntityClasses
