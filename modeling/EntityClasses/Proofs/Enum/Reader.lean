import EntityClasses.Dialect
import EntityClasses.Proofs.Enum.Literals
import EntityClasses.Text.WhiteSpace

/-!
# Reading enumerations

A reader of enumeration files, for both dialects. Labels and values can be any text, line breaks
included, so the text is not cut into lines: the reader goes through its characters, names end at
white space and literals at their closing quotes. Constants, entries of the map and labels are read
as long as there are any.
-/
namespace EntityClasses

structure ShownHelpers where
  /-- The labels, and the literals of their values. -/
  map : List (String × String)
  labels : List String
  deriving DecidableEq, Repr

/-- What an enumeration shows. -/
structure ShownEnum where
  name : String
  /-- The names of the constants, and the literals of their values. -/
  constants : List (String × String)
  helpers : Option ShownHelpers
  deriving DecidableEq, Repr

/-- How enumerations are written in a dialect. -/
structure EnumSyntax where
  /-- Takes off what stands in front of the class. -/
  opening? : List Char → Option (List Char)
  headerStart : List Char
  /-- What stands between the name of the class and its members. -/
  headerEnd : List Char
  constantStart : List Char
  /-- What stands in front of the entries of the map. -/
  mapOpened : List Char
  arrow : List Char
  /-- What stands between the map and the labels. -/
  listOpened : List Char

namespace EnumSyntax

/-- What stands behind the labels. -/
def helpersClosed : List Char :=
  ["        ];", "    \x7d", "\x7d"].flatMap lineText

/-- The end of a class without helpers. -/
def closing : List Char :=
  lineText "\x7d"

/-- What stands in front of a label. -/
def indent : List Char :=
  "            ".toList

/-- What stands between the name of a constant and its literal. -/
def assigned : List Char :=
  " = ".toList

/-- A quoted text at the beginning of a text. -/
def quotedText? (s : List Char) : Option (String × List Char) := do
  let (text, rest) ← unquote (← s.dropPrefix? ['\''])
  return (.ofList text, rest)

def label? (s : List Char) : Option (String × List Char) := do
  let (label, s) ← quotedText? (← s.dropPrefix? indent)
  let s ← s.dropPrefix? (lineText ",")
  return (label, s)

/-- The characters in front of the first white space, and those from there on. -/
def cutName (s : List Char) : List Char × List Char :=
  s.span fun c => !isBlank c

variable (x : EnumSyntax)

def constant? (s : List Char) : Option ((String × String) × List Char) := do
  let (name, s) := cutWord (← s.dropPrefix? x.constantStart)
  let (literal, s) ← EnumLayout.literal? (← s.dropPrefix? assigned)
  let s ← s.dropPrefix? (lineText ";")
  return ((.ofList name, literal), s)

def pair? (s : List Char) : Option ((String × String) × List Char) := do
  let (label, s) ← quotedText? (← s.dropPrefix? indent)
  let (literal, s) ← EnumLayout.literal? (← s.dropPrefix? x.arrow)
  let s ← s.dropPrefix? (lineText ",")
  return ((label, literal), s)

/-- Reads both helpers, up to the end of the text. -/
def helpers? (s : List Char) : Option ShownHelpers := do
  let (entries, s) := many x.pair? (← s.dropPrefix? x.mapOpened)
  let (labels, s) := many label? (← s.dropPrefix? x.listOpened)
  if s = helpersClosed then return ⟨entries, labels⟩ else none

/-- Reads what stands behind the constants: either nothing but the end of the class or, behind an
empty line if there are constants, the helpers. -/
def behindConstants? (constants : List (String × String)) (s : List Char) :
    Option (Option ShownHelpers) := do
  if s = closing then return none
  else
    let s ← if constants.isEmpty then some s else s.dropPrefix? (lineText "")
    let helpers ← x.helpers? s
    return some helpers

/-- Reads a class from its header to the end of the text. -/
def readClass (s : List Char) : Option ShownEnum := do
  let (name, s) := cutName (← s.dropPrefix? x.headerStart)
  let (constants, s) := many x.constant? (← s.dropPrefix? x.headerEnd)
  let helpers ← x.behindConstants? constants s
  return ⟨.ofList name, constants, helpers⟩

def read (text : String) : Option ShownEnum :=
  (x.opening? text.toList).bind x.readClass

end EnumSyntax

namespace Php

/-- Takes off the start of a file and, if there is one, its namespace. -/
def opening? (s : List Char) : Option (List Char) := do
  let s ← s.dropPrefix? (["<?php", ""].flatMap lineText)
  match s.dropPrefix? "namespace ".toList with
  | none => return s
  | some s => (s.dropWhile (· ≠ '\n')).dropPrefix? (["", ""].flatMap lineText)

def enumSyntax : EnumSyntax where
  opening? := opening?
  headerStart := "class ".toList
  headerEnd := ["", "\x7b"].flatMap lineText
  constantStart := "    const ".toList
  mapOpened := ["    public static function toMap(): array", "    \x7b", "        return ["].flatMap
    lineText
  arrow := " => ".toList
  listOpened := ["        ];", "    \x7d", "", "    public static function toArray(): array",
    "    \x7b", "        return ["].flatMap lineText

end Php

namespace JavaScript

def enumSyntax : EnumSyntax where
  opening? := some
  headerStart := "export class ".toList
  headerEnd := lineText " \x7b"
  constantStart := "    static ".toList
  mapOpened := ["    static toMap() \x7b", "        return \x7b"].flatMap lineText
  arrow := ": ".toList
  listOpened := ["        \x7d;", "    \x7d", "", "    static toArray() \x7b",
    "        return ["].flatMap lineText

end JavaScript

namespace Dialect

def enumSyntax : Dialect → EnumSyntax
  | php => Php.enumSyntax
  | javaScript => JavaScript.enumSyntax

/-- What stands in front of the class: nothing, or in PHP the start of a file and its namespace. -/
def enumOpening (d : Dialect) (nameSpace : String) : List Char :=
  match d with
  | php =>
    "<?php\n\n".toList ++
      if nameSpace = "" then [] else "namespace ".toList ++ (nameSpace.toList ++ ";\n\n".toList)
  | javaScript => []

/-- Behind the opening for a namespace, whichever text that is, the class is read as `shown`. -/
def ShowsEnum (d : Dialect) (nameSpace content : String) (shown : ShownEnum) : Prop :=
  ∃ text, content.toList = d.enumOpening nameSpace ++ text ∧
    d.enumSyntax.readClass text = some shown

end Dialect

end EntityClasses
