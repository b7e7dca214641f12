import EntityClasses.Snapshot

/-!
# Catalogs

What a run asks of a database, and who answers. A catalog may keep a state and may refuse any
request with a message. Wrappers record the requests that reach a catalog, or refuse all requests of
one kind from some point on.
-/
namespace EntityClasses

inductive Request
  | tables (schema : String)
  | columns (schema table : String)
  | outgoingKeys (schema table : String)
  | incomingKeys (table : String)
  | rows (schema table : String)
  deriving DecidableEq, Repr

inductive RequestKind
  | tables
  | columns
  | outgoingKeys
  | incomingKeys
  | rows
  deriving DecidableEq, Repr

def RequestKind.name : RequestKind → String
  | tables => "list_tables"
  | columns => "list_columns"
  | outgoingKeys => "list_outgoing_constraints"
  | incomingKeys => "list_incoming_constraints"
  | rows => "query_rows"

namespace Request

abbrev Answer : Request → Type
  | tables _ => List String
  | columns _ _ => List Column
  | outgoingKeys _ _ => List OutgoingKey
  | incomingKeys _ => List IncomingKey
  | rows _ _ => List Row

def kind : Request → RequestKind
  | tables _ => .tables
  | columns _ _ => .columns
  | outgoingKeys _ _ => .outgoingKeys
  | incomingKeys _ => .incomingKeys
  | rows _ _ => .rows

/-- The schema or table that a request is about. -/
def target : Request → String
  | tables schema => schema
  | columns _ table => table
  | outgoingKeys _ table => table
  | incomingKeys table => table
  | rows _ table => table

def text (q : Request) : String :=
  let subject := match q with
    | tables schema => schema
    | incomingKeys table => table
    | columns schema table => schema ++ "." ++ table
    | outgoingKeys schema table => schema ++ "." ++ table
    | rows schema table => schema ++ "." ++ table
  q.kind.name ++ " " ++ subject

end Request

structure Catalog (σ : Type) where
  ask : (q : Request) → σ → Except String q.Answer × σ

namespace Catalog

variable {σ : Type}

/-- Keeps the requests made so far beside the state. -/
def recorded (c : Catalog σ) : Catalog (σ × List Request) where
  ask q s := ((c.ask q s.1).1, (c.ask q s.1).2, s.2 ++ [q])

/-- Lets a number of requests of one kind through, whatever becomes of them, and refuses those that
follow. -/
def refusing (kind : RequestKind) (message : String) (c : Catalog σ) : Catalog (σ × Nat) where
  ask q s :=
    if q.kind = kind then
      match s.2 with
      | 0 => (.error message, s)
      | n + 1 => ((c.ask q s.1).1, (c.ask q s.1).2, n)
    else ((c.ask q s.1).1, (c.ask q s.1).2, s.2)

end Catalog

namespace Snapshot

def answer (s : Snapshot) : (q : Request) → Except LookupFailure q.Answer
  | .tables schema => (s.tables schema).map fun ts => ts.map (·.name)
  | .columns schema table => (s.table schema table).map (·.columns)
  | .outgoingKeys schema table => (s.table schema table).map (outgoingKeys · schema)
  | .incomingKeys table => .ok (s.incomingKeys table)
  | .rows schema table => (s.table schema table).map (·.rows)

end Snapshot

/-- A snapshot as a catalog; requests leave it as it is. -/
def Catalog.ofSnapshot : Catalog Snapshot where
  ask q s := ((s.answer q).mapError LookupFailure.message, s)

end EntityClasses
