import EntityClasses.Entity
import EntityClasses.Type.Mapping

/-!
# Layout of a class

All that a class says, with names and types settled, before any syntax: its members in the order
columns, references, collections, and the generated classes it depends on.
-/
namespace EntityClasses

inductive MemberKind
  | column (typeName : String) (note : Option String)
  /-- One related entity. -/
  | reference (className : String)
  /-- The entities that refer to this one. -/
  | collection (className : String)
  deriving DecidableEq, Repr

structure Member where
  name : String
  /-- The raw name, under which a keyed constructor finds the value. -/
  key : String
  kind : MemberKind
  nullable : Bool
  deriving DecidableEq, Repr

structure ClassLayout where
  className : String
  /-- Generated classes in the order of their first use, the class itself left out. -/
  dependencies : List String
  /-- Built-in classes in the order of their first use. -/
  builtins : List String
  members : List Member
  deriving DecidableEq, Repr

namespace ClassLayout

def columnMember (c : Config) (col : TypedColumn) : Member :=
  ⟨c.memberFor col.name, col.name, .column col.typeName col.note, col.nullable || c.alwaysNullable⟩

def referenceMember (c : Config) (r : Relation) : Member :=
  ⟨c.referenceFor r.field, r.field, .reference (c.classFor r.target),
    r.nullable || c.alwaysNullable⟩

def collectionMember (c : Config) (r : Relation) : Member :=
  ⟨c.collectionFor r.field, r.field, .collection (c.classFor r.target), true⟩

/-- The classes that relations lead to, then the types of columns that the dialect does not have
itself. -/
def dependenciesOf (d : Dialect) (c : Config) (e : Entity) (columns : List TypedColumn) :
    List String :=
  (((e.kept c).map fun r => c.classFor r.target).filter (· ≠ c.classFor e.name) ++
    (columns.map (·.typeName)).filter (!d.isNative ·)).eraseDups

def builtinsOf (d : Dialect) (columns : List TypedColumn) : List String :=
  ((columns.map (·.typeName)).filter d.isBuiltIn).eraseDups

def ofColumns (d : Dialect) (c : Config) (e : Entity) (columns : List TypedColumn) :
    ClassLayout where
  className := c.classFor e.name
  dependencies := dependenciesOf d c e columns
  builtins := builtinsOf d columns
  members := columns.map (columnMember c) ++ (e.keptOutgoing c).map (referenceMember c) ++
    (e.keptIncoming c).map (collectionMember c)

/-- Fails at the first column whose type is not recognized. -/
def build (d : Dialect) (c : Config) (e : Entity) : Except Failure ClassLayout :=
  (typeColumns d e.fields).map (ofColumns d c e)

end ClassLayout

end EntityClasses
