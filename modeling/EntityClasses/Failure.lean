/-!
# Failures of a generation run

What can go wrong, as causes, and the message of each.
-/
namespace EntityClasses

/-- The steps of a run that can fail or are recorded in its journal. -/
inductive Stage
  | connecting
  | listingTables
  | fetchingFields
  | fetchingOwnRelations
  | fetchingInverseRelations
  | emitting
  | validatingFields
  | queryingRows
  deriving DecidableEq, Repr

def Stage.name : Stage → String
  | connecting => "connecting"
  | listingTables => "listing tables"
  | fetchingFields => "fetching fields"
  | fetchingOwnRelations => "fetching own relations"
  | fetchingInverseRelations => "fetching inverse relations"
  | emitting => "emitting"
  | validatingFields => "validating fields"
  | queryingRows => "querying rows"

inductive Failure
  /-- The keyword of a declared column type is not in the type table. -/
  | unrecognizedType (keyword declared : String)
  | fieldNotFound (table field : String)
  /-- A row has no usable value in a field. -/
  | invalidRow (table field : String)
  | missingConnectionParameters (names : List String)
  /-- The catalog or the connector refused, with its own words as `reason`. -/
  | query (stage : Stage) (target reason : String)
  | write (path : String)
  deriving DecidableEq, Repr

def Failure.message : Failure → String
  | unrecognizedType keyword declared =>
    "unrecognized column type `" ++ keyword ++ "` (declared as `" ++ declared ++ "`)"
  | fieldNotFound table field => "field `" ++ field ++ "` not found in table `" ++ table ++ "`"
  | invalidRow table field => "row in table `" ++ table ++ "` has no value for `" ++ field ++ "`"
  | missingConnectionParameters names =>
    "missing connection parameters: " ++ ", ".intercalate names
  | query stage target _ => stage.name ++ " failed for `" ++ target ++ "`"
  | write path => "failed to write `" ++ path ++ "`"

end EntityClasses
