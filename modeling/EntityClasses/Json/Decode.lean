import EntityClasses.Json.Reader
import EntityClasses.SortedMap
import EntityClasses.UnknownOption

/-!
# Decoding JSON into values

A decoder walks a tree in the order of the text, so that the first fault of the text is the one it
reports. It is given the number of containers that may still be opened inside each other.
-/
namespace EntityClasses.Json

inductive Fault
  /-- The text is no JSON, or does not have the required shape. -/
  | malformed
  | unknownOption (e : UnknownOption)
  deriving DecidableEq, Repr

abbrev Decoder (α : Type) := Nat → Tree → Except Fault α

namespace Decoder

def text : Decoder String
  | _, .text (some s) => .ok s
  | _, _ => .error .malformed

def bool : Decoder Bool
  | _, .bool b => .ok b
  | _, _ => .error .malformed

/-- The text of an option. -/
def option {α : Type} (parse : String → Except UnknownOption α) : Decoder α
  | _, .text (some s) => (parse s).mapError .unknownOption
  | _, _ => .error .malformed

def nullable {α : Type} (d : Decoder α) : Decoder (Option α)
  | _, .null => .ok none
  | n, t => (d n t).map some

def list {α : Type} (d : Decoder α) : Decoder (List α)
  | n + 1, .array items => items.mapM (d n)
  | _, _ => .error .malformed

/-- Reads the members of an object; every key has to have a text. -/
def readMembers {α : Type} (read : Tree → Except Fault α) (ms : List (Option String × Tree)) :
    Except Fault (List (String × α)) :=
  ms.mapM fun m => match m.1 with
    | some k => (read m.2).map fun v => (k, v)
    | none => .error .malformed

/-- An object as a map; the last member of a key stays. -/
def map {α : Type} (d : Decoder α) : Decoder (SortedMap String α)
  | n + 1, .object ms => (readMembers (d n) ms).map .ofList
  | _, _ => .error .malformed

/-- One of several names, or an object with that name as its only key and null under it. -/
def variant {α : Type} (names : List (String × α)) : Decoder α
  | _, .text (some s) => (names.lookup s).elim (.error .malformed) .ok
  | _ + 1, .object [(some s, .null)] => (names.lookup s).elim (.error .malformed) .ok
  | _, _ => .error .malformed

/-- A value of any shape; the members of objects are sorted, the last one of a key stays. -/
def value : Decoder Json
  | _, .null => .ok .null
  | _, .bool b => .ok (.bool b)
  | _, .number l => l.value?.elim (.error .malformed) .ok
  | _, .text s => s.elim (.error .malformed) fun s => .ok (.text s)
  | n + 1, .array items => (items.mapM (value n)).map .array
  | n + 1, .object ms => (readMembers (value n) ms).map fun ms => .object (SortedMap.ofList ms).entries
  | _, _ => .error .malformed

end Decoder

/-- A field of a record: its decoded value is put into the record. -/
structure RecordField (α : Type) where
  name : String
  required : Bool
  put : Nat → Tree → α → Except Fault α

namespace RecordField

def of {α β : Type} (required : Bool) (name : String) (d : Decoder β) (set : β → α → α) :
    RecordField α :=
  ⟨name, required, fun n t a => (d n t).map (set · a)⟩

end RecordField

namespace Decoder

/-- Puts the members of an object into a record. Unknown members only have to be well formed; a
known one must not come twice. -/
def putMembers {α : Type} (fields : List (RecordField α)) (n : Nat) (seen : List String) (a : α) :
    List (Option String × Tree) → Except Fault (α × List String)
  | [] => .ok (a, seen)
  | (none, _) :: _ => .error .malformed
  | (some k, t) :: r =>
    match fields.find? (·.name == k) with
    | none => if t.sound then putMembers fields n seen a r else .error .malformed
    | some f =>
      if k ∈ seen then .error .malformed
      else do putMembers fields n (k :: seen) (← f.put n t a) r

/-- Puts the elements of an array into a record, field by field. -/
def putItems {α : Type} (n : Nat) (a : α) : List (RecordField α) → List Tree → Except Fault α
  | [], [] => .ok a
  | [], _ :: _ => .error .malformed
  | f :: fs, [] => if f.required then .error .malformed else putItems n a fs []
  | f :: fs, t :: ts => do putItems n (← f.put n t a) fs ts

/-- A record as an object, or as an array of its fields in order. Fields that are left out keep the
value they have in `start`, unless they are required. -/
def record {α : Type} (fields : List (RecordField α)) (start : α) : Decoder α
  | n + 1, .object ms => do
    let (a, seen) ← putMembers fields n [] start ms
    if fields.all fun f => !f.required || seen.contains f.name then return a
    else .error .malformed
  | n + 1, .array items => putItems n start fields items
  | _, _ => .error .malformed

/-- Containers may be opened this deep inside each other. -/
def depthLimit : Nat := 127

/-- Decodes a whole text. -/
def run {α : Type} (d : Decoder α) (text : String) : Except Fault α := do
  let document := Document.read text.toList
  let a ← d depthLimit document.tree
  if document.whole then return a else .error .malformed

end Decoder

end EntityClasses.Json
