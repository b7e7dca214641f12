import EntityClasses.Dialect
import EntityClasses.Entity
import EntityClasses.Failure
import EntityClasses.Json.Basic
import EntityClasses.Sink

/-!
# Journals of runs

What a run records: events, each within the spans of work that were open when it happened.
-/
namespace EntityClasses

inductive Level
  | debug
  | info
  | warn
  | error
  deriving DecidableEq, Repr

def Level.name : Level → String
  | debug => "DEBUG"
  | info => "INFO"
  | warn => "WARN"
  | error => "ERROR"

inductive Span
  | schema (schema : String) (dialect : Dialect)
  | table (table : String)
  | enumeration (schema table : String) (dialect : Dialect)
  deriving DecidableEq, Repr

namespace Span

def name : Span → String
  | schema _ _ => "scaffold"
  | table _ => "table"
  | enumeration _ _ _ => "scaffold_enum"

def fields : Span → List (String × Json)
  | schema s d => [("schema", .text s), ("dialect", .text d.name)]
  | table t => [("table", .text t)]
  | enumeration s t d => [("schema", .text s), ("table", .text t), ("dialect", .text d.name)]

end Span

inductive Event
  | entering (stage : Stage) (target : String)
  | emptyField (key : IncomingKey)
  /-- A relation of the table is left out, since its database is ignored. -/
  | skippedRelation (table : String) (direction : Direction) (relation : Relation)
  | targetExists (path : String)
  | generated (className : String)
  | saved (className path : String) (outcome : Outcome)
  | tableFailed (table : String) (failure : Failure)
  | schemaDone (count : Nat)
  deriving DecidableEq, Repr

namespace Event

def level : Event → Level
  | entering _ _ => .debug
  | emptyField _ => .warn
  | skippedRelation _ _ _ => .info
  | targetExists _ => .debug
  | generated _ => .info
  | saved _ _ _ => .info
  | tableFailed _ _ => .error
  | schemaDone _ => .info

def message : Event → String
  | entering _ _ => "entering stage"
  | emptyField _ => "constraint name yields an empty field name"
  | skippedRelation _ _ _ => "skipping relation from ignored database"
  | targetExists _ => "target exists, overwrite disabled"
  | generated _ => "artifact generated"
  | saved _ _ _ => "artifact generated"
  | tableFailed _ _ => "entity generation failed"
  | schemaDone _ => "schema scaffolded"

def fields : Event → List (String × Json)
  | entering stage target => [("stage", .text stage.name), ("target", .text target)]
  | emptyField key => [("constraint", .text key.constraint), ("table", .text key.table)]
  | skippedRelation table direction r =>
    [("table", .text table), ("direction", .text direction.name), ("target", .text r.target),
     ("database", .text r.database)]
  | targetExists path => [("path", .text path)]
  | generated className => [("class", .text className)]
  | saved className path outcome =>
    [("class", .text className), ("path", .text path), ("written", .bool (outcome = .written))]
  | tableFailed table failure => [("table", .text table), ("error", .text failure.message)]
  | schemaDone count => [("count", .int count)]

end Event

structure Entry where
  event : Event
  /-- The open spans, the outermost first. -/
  spans : List Span
  deriving DecidableEq, Repr

def Entry.toJson (e : Entry) : Json :=
  .object
    [("level", .text e.event.level.name),
     ("message", .text e.event.message),
     ("fields", .object e.event.fields),
     ("spans", .array (e.spans.map fun s => .array [.text s.name, .object s.fields]))]

end EntityClasses
