import EntityClasses.Text.WhiteSpace

/-!
# Declared column types

A declared type is a keyword, perhaps with parameters in parentheses and modifiers behind it, as in
`decimal(10,2) unsigned`. The keyword may be in any ASCII letter case.
-/
namespace EntityClasses

namespace Declared

/-- The first word in front of any parenthesis, in lower case; empty if there is none. -/
def keyword (declared : List Char) : List Char :=
  (firstWord (declared.takeWhile (· ≠ '('))).map Char.toLower

/-- The text behind the first `c`, if `c` occurs. -/
def behind? (c : Char) : List Char → Option (List Char)
  | [] => none
  | d :: r => if d = c then some r else behind? c r

/-- The text between the first `(` and the next `)`, or the end. -/
def parameters? (declared : List Char) : Option (List Char) :=
  (behind? '(' declared).map (·.takeWhile (· ≠ ')'))

def nonBlank? (s : List Char) : Option (List Char) :=
  if (trim s).isEmpty then none else some (trim s)

/-- What the parameters say about the values: the length of a `varchar`, the scale of a `decimal`. -/
def note? (keyword : String) (declared : List Char) : Option String :=
  if keyword = "varchar" then
    (parameters? declared).bind nonBlank? |>.map fun s => "max length: " ++ String.ofList s
  else if keyword = "decimal" then
    ((parameters? declared).bind (behind? ',')).bind nonBlank? |>.map fun s =>
      "precision: " ++ String.ofList s
  else none

end Declared

end EntityClasses
