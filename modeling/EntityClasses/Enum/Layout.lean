import EntityClasses.Config
import EntityClasses.Failure
import EntityClasses.Json.Encode
import EntityClasses.Row
import EntityClasses.Text.Quoted

/-!
# Layout of an enumeration

The rows of a lookup table as named constants: one field of the row gives the name, another the
value.
-/
namespace EntityClasses

structure EnumSource where
  table : String
  rows : List Row
  nameField : String
  valueField : String

structure Constant where
  name : String
  /-- The name as it stands in the row. -/
  label : String
  /-- The value as source text. -/
  literal : String
  deriving DecidableEq, Repr

structure EnumLayout where
  className : String
  constants : List Constant
  deriving DecidableEq, Repr

namespace EnumLayout

def labelOf : Json → String
  | .text s => s
  | v => v.encode

/-- Texts are quoted; compound values are quoted as JSON; all others are written as in JSON. -/
def literalOf : Json → String
  | .text s => quoted s
  | .array items => quoted (Json.array items).encode
  | .object members => quoted (Json.object members).encode
  | v => v.encode

/-- A null is no name; as a value it counts. -/
def constant (c : Config) (s : EnumSource) (row : Row) : Except Failure Constant :=
  match row.get? s.nameField with
  | none | some .null => .error (.invalidRow s.table s.nameField)
  | some name =>
    match row.get? s.valueField with
    | none => .error (.invalidRow s.table s.valueField)
    | some value => .ok ⟨c.memberFor (labelOf name), labelOf name, literalOf value⟩

/-- Fails at the first row that lacks a name or a value. -/
def build (c : Config) (s : EnumSource) : Except Failure EnumLayout :=
  (s.rows.mapM (constant c s)).map fun constants => ⟨c.classFor s.table, constants⟩

end EnumLayout

end EntityClasses
