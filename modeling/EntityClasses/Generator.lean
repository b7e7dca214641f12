import EntityClasses.Class
import EntityClasses.Enum
import EntityClasses.Generation

/-!
# Generators

A generator makes classes and enumerations from a catalog and hands them to a sink. A schema is made
table by table and stops at the first failure.
-/
namespace EntityClasses

/-- The class of an entity. The relations left out are noted, unless a column type is not
recognized. -/
def Generation.makeClass {σ τ : Type} (d : Dialect) (c : Config) (e : Entity) :
    Generation σ τ Artifact := do
  let layout ← ofResult (ClassLayout.build d c e)
  (e.ignored c).forM fun (direction, r) => note (.skippedRelation e.name direction r)
  return layout.artifact d c

structure Generator (σ τ : Type) where
  catalog : Catalog σ
  sink : Sink τ
  config : Config
  dialect : Dialect

namespace Generator

open Generation

variable {σ τ : Type}

/-- Relations of incoming keys; a key that yields no field name is noted. -/
def incomingRelations (g : Generator σ τ) (keys : List IncomingKey) :
    Generation σ τ (List Relation) :=
  keys.mapM fun k => do
    let r := Relation.ofIncoming g.config.parseConstraints k
    if r.field.isEmpty then note (.emptyField k)
    return r

def readEntity (g : Generator σ τ) (schema table : String) : Generation σ τ Entity := do
  let fields ← ask g.catalog .fetchingFields (.columns schema table)
  let outgoing ← ask g.catalog .fetchingOwnRelations (.outgoingKeys schema table)
  let incoming ← ask g.catalog .fetchingInverseRelations (.incomingKeys table)
  return ⟨table, fields, outgoing.map .ofOutgoing, ← g.incomingRelations incoming⟩

/-- Saves a file if that is wanted. -/
def deliver (g : Generator σ τ) (a : Artifact) : Generation σ τ Artifact := do
  if g.config.saveAfterCreate then
    let path := a.path g.config.outputDir
    let outcome ← write g.sink ⟨path, a.content, g.config.overwrite⟩
    note (.saved a.className path outcome)
  else note (.generated a.className)
  return a

def tableClass (g : Generator σ τ) (schema table : String) : Generation σ τ Artifact :=
  inSpan (.table table) <| noteFailure (.tableFailed table) do
    let e ← g.readEntity schema table
    note (.entering .emitting table)
    g.deliver (← Generation.makeClass g.dialect g.config e)

def runTable (g : Generator σ τ) (schema table : String) : Generation σ τ Artifact :=
  inSpan (.schema schema g.dialect) (g.tableClass schema table)

/-- A class for each table of a schema, in listing order. -/
def runSchema (g : Generator σ τ) (schema : String) : Generation σ τ (List Artifact) :=
  inSpan (.schema schema g.dialect) do
    let tables ← ask g.catalog .listingTables (.tables schema)
    let artifacts ← List.mapM (g.tableClass schema) tables
    note (.schemaDone artifacts.length)
    return artifacts

/-- Fails unless a field is among the columns. -/
def requireField (table : String) (columns : List Column) (field : String) :
    Generation σ τ Unit :=
  if columns.any (·.name == field) then pure () else fail (.fieldNotFound table field)

/-- An enumeration from the rows of a table. Both fields are looked up among the columns before any
row is read. -/
def runEnum (g : Generator σ τ) (schema table nameField valueField : String) :
    Generation σ τ Artifact :=
  inSpan (.enumeration schema table g.dialect) do
    let columns ← ask g.catalog .validatingFields (.columns schema table)
    requireField table columns nameField
    requireField table columns valueField
    let rows ← ask g.catalog .queryingRows (.rows schema table)
    note (.entering .emitting table)
    g.deliver (← ofResult (enumArtifact g.dialect g.config ⟨table, rows, nameField, valueField⟩))

end Generator

end EntityClasses
