import EntityClasses.Column
import EntityClasses.Config
import EntityClasses.Relation

/-!
# Entities

A table as classes are made from it: its columns, and its relations in both directions. Relations
whose database is ignored are left out of the class.
-/
namespace EntityClasses

structure Entity where
  name : String
  fields : List Column
  outgoing : List Relation
  incoming : List Relation
  deriving DecidableEq, Repr

inductive Direction
  | outgoing
  | incoming
  deriving DecidableEq, Repr

def Direction.name : Direction → String
  | outgoing => "outgoing"
  | incoming => "incoming"

def Config.keeps (c : Config) (r : Relation) : Bool :=
  !c.ignores r.database

namespace Entity

def keptOutgoing (e : Entity) (c : Config) : List Relation :=
  e.outgoing.filter c.keeps

def keptIncoming (e : Entity) (c : Config) : List Relation :=
  e.incoming.filter c.keeps

def kept (e : Entity) (c : Config) : List Relation :=
  e.keptOutgoing c ++ e.keptIncoming c

/-- The relations left out, outgoing ones first. -/
def ignored (e : Entity) (c : Config) : List (Direction × Relation) :=
  (e.outgoing.filter (!c.keeps ·)).map (.outgoing, ·) ++
    (e.incoming.filter (!c.keeps ·)).map (.incoming, ·)

end Entity

end EntityClasses
