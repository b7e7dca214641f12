/-!
# Relations between tables

A foreign key is seen from two sides: the table that declares it has an outgoing key, the table it
references has an incoming one. Both become relations. An outgoing relation is named after the
referenced table; an incoming one after the constraint, which usually holds the referencing table's
name between `fk` and column markers.
-/
namespace EntityClasses

structure OutgoingKey where
  table : String
  field : String
  database : String
  deriving DecidableEq, Repr

structure IncomingKey where
  table : String
  constraint : String
  database : String
  deriving DecidableEq, Repr

structure Relation where
  target : String
  field : String
  nullable : Bool
  database : String
  deriving DecidableEq, Repr

namespace Relation

/-- The segments of a constraint name without the `fk` markers, without one trailing `id`, and
without the segment in front of that. -/
def fieldSegments (segments : List (List Char)) : List (List Char) :=
  let rest := segments.filter (· ≠ ['f', 'k'])
  if rest.getLast? = some ['i', 'd'] then rest.dropLast.dropLast else rest.dropLast

def fieldOfConstraint (constraint : String) : String :=
  .ofList (['_'].intercalate (fieldSegments (constraint.toList.splitOn '_')))

def ofOutgoing (k : OutgoingKey) : Relation :=
  ⟨k.table, k.table, true, k.database⟩

/-- The field is read off the constraint's name, or is that name. -/
def ofIncoming (parseConstraints : Bool) (k : IncomingKey) : Relation :=
  ⟨k.table, if parseConstraints then fieldOfConstraint k.constraint else k.constraint, true,
    k.database⟩

end Relation

end EntityClasses
