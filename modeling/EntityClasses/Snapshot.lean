import EntityClasses.Column
import EntityClasses.Relation
import EntityClasses.Row

/-!
# Snapshots of databases

Databases as plain data: tables in listing order with their columns, foreign keys and rows. A table
is found by the first entry of its name. A foreign key that names no database references a table of
the database that declares it.
-/
namespace EntityClasses

structure ForeignKey where
  constraint : String
  table : String
  field : String
  database : Option String
  deriving DecidableEq, Repr

structure Table where
  name : String
  columns : List Column
  foreignKeys : List ForeignKey
  rows : List Row

structure Snapshot where
  databases : SortedMap String (List Table)

inductive LookupFailure
  | unknownSchema (schema : String)
  | unknownTable (schema table : String)
  deriving DecidableEq, Repr

def LookupFailure.message : LookupFailure → String
  | unknownSchema schema => "unknown schema `" ++ schema ++ "`"
  | unknownTable schema table => "unknown table `" ++ schema ++ "." ++ table ++ "`"

namespace Snapshot

def empty : Snapshot := ⟨.empty⟩

def tables (s : Snapshot) (schema : String) : Except LookupFailure (List Table) :=
  match s.databases.get? schema with
  | some tables => .ok tables
  | none => .error (.unknownSchema schema)

def table (s : Snapshot) (schema name : String) : Except LookupFailure Table := do
  match (← s.tables schema).find? (·.name == name) with
  | some t => return t
  | none => .error (.unknownTable schema name)

def outgoingKeys (t : Table) (schema : String) : List OutgoingKey :=
  t.foreignKeys.map fun k => ⟨k.table, k.field, k.database.getD schema⟩

/-- The keys of a table that name `target` as the table they reference. -/
def keysTo (target database : String) (t : Table) : List IncomingKey :=
  (t.foreignKeys.filter (·.table == target)).map fun k => ⟨t.name, k.constraint, database⟩

/-- All databases are searched, in the order of their names. -/
def incomingKeys (s : Snapshot) (target : String) : List IncomingKey :=
  s.databases.entries.flatMap fun (database, tables) => tables.flatMap (keysTo target database)

/-- Appends a table to a database, which is made if it does not exist. -/
def addTable (s : Snapshot) (database : String) (t : Table) : Snapshot :=
  ⟨s.databases.insert database ((s.databases.get? database).getD [] ++ [t])⟩

end Snapshot

end EntityClasses
