import EntityClasses.Text.WordCharacter

/-!
# Ending rules

A rule recognises a word by its ending, keeps a part in front of the dropped ending and adds a text
to it. Everything in front of the kept part is lost, so a rule's reach says how far the kept part
goes to the left.
-/
namespace EntityClasses.Inflection

inductive CharClass
  | only (c : Char)
  | oneOf (cs : List Char)
  | noneOf (cs : List Char)
  deriving DecidableEq, Repr

def CharClass.admits : CharClass → Char → Bool
  | only d, c => c = d
  | oneOf cs, c => cs.contains c
  | noneOf cs, c => !cs.contains c

abbrev Pattern := List CharClass

namespace Pattern

def ofText (s : String) : Pattern :=
  s.toList.map .only

def oneOf (s : String) : Pattern :=
  [.oneOf s.toList]

def noneOf (s : String) : Pattern :=
  [.noneOf s.toList]

def fits : Pattern → List Char → Bool
  | [], [] => true
  | k :: ks, c :: cs => k.admits c && fits ks cs
  | _, _ => false

/-- Cuts a fitting ending off a word. -/
def cutEnd? (p : Pattern) (w : List Char) : Option (List Char × List Char) :=
  let n := w.length - p.length
  if fits p (w.drop n) then some (w.take n, w.drop n) else none

def cutStart? (p : Pattern) (w : List Char) : Option (List Char × List Char) :=
  if fits p (w.take p.length) then some (w.take p.length, w.drop p.length) else none

end Pattern

inductive Reach
  /-- The kept ending and all word characters next to it. -/
  | run
  /-- The kept ending alone. -/
  | ending
  /-- The kept ending, which has to start the word. -/
  | whole
  /-- A kept start of the word; anything may follow the dropped part. -/
  | opening
  deriving DecidableEq, Repr

structure Rule where
  reach : Reach
  kept : List Pattern
  dropped : List Pattern
  added : String
  deriving DecidableEq, Repr

/-- The longest stretch of word characters at the end of a text. -/
def wordRun (s : List Char) : List Char :=
  (s.reverse.takeWhile isWordCharacter).reverse

def longest : List (List Char) → Option (List Char)
  | [] => none
  | s :: rest =>
    match longest rest with
    | some t => if s.length < t.length then some t else some s
    | none => some s

namespace Rule

/-- What a rule keeps of a word, for one kept and one dropped alternative. -/
def keep? (reach : Reach) (kept dropped : Pattern) (w : List Char) : Option (List Char) := do
  match reach with
  | .opening =>
    let (start, rest) ← kept.cutStart? w
    let _ ← dropped.cutStart? rest
    return start
  | .run =>
    let (front, _) ← dropped.cutEnd? w
    let (before, text) ← kept.cutEnd? front
    return wordRun before ++ text
  | .ending =>
    let (front, _) ← dropped.cutEnd? w
    let (_, text) ← kept.cutEnd? front
    return text
  | .whole =>
    let (front, _) ← dropped.cutEnd? w
    let (before, text) ← kept.cutEnd? front
    if before.isEmpty then return text else none

/-- Of several alternatives the one that keeps most counts, since it begins leftmost. -/
def answer? (r : Rule) (w : List Char) : Option (List Char) :=
  (longest (r.dropped.flatMap fun d => r.kept.filterMap fun k => keep? r.reach k d w)).map
    (· ++ r.added.toList)

end Rule

end EntityClasses.Inflection
