import EntityClasses.Catalog
import EntityClasses.Json.Decode
import EntityClasses.Json.Encode

/-!
# Snapshots in JSON

A snapshot that records its requests is written without them, and is decoded with none.
-/
namespace EntityClasses

open Json (Decoder RecordField)

namespace Column

def fields : List (RecordField Column) :=
  [.of true "name" .text fun v c => { c with name := v },
   .of true "raw_type" .text fun v c => { c with declared := v },
   .of false "nullable" .bool fun v c => { c with nullable := v }]

def decoder : Decoder Column :=
  .record fields ⟨"", "", false⟩

def toJson (c : Column) : Json :=
  .object [("name", .text c.name), ("raw_type", .text c.declared), ("nullable", .bool c.nullable)]

end Column

namespace ForeignKey

def fields : List (RecordField ForeignKey) :=
  [.of true "constraint_name" .text fun v k => { k with constraint := v },
   .of true "referenced_table" .text fun v k => { k with table := v },
   .of false "referenced_field" .text fun v k => { k with field := v },
   .of false "referenced_database" (.nullable .text) fun v k => { k with database := v }]

/-- A key references the field `id` unless it names another. -/
def decoder : Decoder ForeignKey :=
  .record fields ⟨"", "", "id", none⟩

def toJson (k : ForeignKey) : Json :=
  .object
    [("constraint_name", .text k.constraint),
     ("referenced_table", .text k.table),
     ("referenced_field", .text k.field),
     ("referenced_database", k.database.elim .null .text)]

end ForeignKey

namespace Row

def decoder : Decoder Row :=
  .map .value

def toJson (r : Row) : Json :=
  .object r.entries

end Row

namespace Table

def fields : List (RecordField Table) :=
  [.of true "name" .text fun v t => { t with name := v },
   .of false "columns" (.list Column.decoder) fun v t => { t with columns := v },
   .of false "foreign_keys" (.list ForeignKey.decoder) fun v t => { t with foreignKeys := v },
   .of false "rows" (.list Row.decoder) fun v t => { t with rows := v }]

def decoder : Decoder Table :=
  .record fields ⟨"", [], [], []⟩

def toJson (t : Table) : Json :=
  .object
    [("name", .text t.name),
     ("columns", .array (t.columns.map Column.toJson)),
     ("foreign_keys", .array (t.foreignKeys.map ForeignKey.toJson)),
     ("rows", .array (t.rows.map Row.toJson))]

end Table

namespace Snapshot

/-- A snapshot and the requests made of it so far. -/
abbrev Recorded := Snapshot × List Request

namespace Recorded

def fields : List (RecordField Recorded) :=
  [.of false "databases" (.map (.list Table.decoder)) fun v s => ({ s.1 with databases := v }, s.2)]

def decoder : Decoder Recorded :=
  .record fields (empty, [])

def toJson (s : Recorded) : Json :=
  .object
    [("databases", .object (s.1.databases.entries.map fun (name, tables) =>
      (name, .array (tables.map Table.toJson))))]

def parse (text : String) : Except Json.Fault Recorded :=
  decoder.run text

end Recorded

end Snapshot

end EntityClasses
