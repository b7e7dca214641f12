import EntityClasses.Text.CaseMapping
import EntityClasses.Text.WhiteSpace
import EntityClasses.UnknownOption

/-!
# Dialects

The two languages in which classes are written.
-/
namespace EntityClasses

inductive Dialect
  | php
  | javaScript
  deriving DecidableEq, Repr

namespace Dialect

def name : Dialect → String
  | php => "php"
  | javaScript => "javascript"

/-- File extension of generated files. -/
def extension : Dialect → String
  | php => "php"
  | javaScript => "mjs"

/-- White space around the text and its letter case do not matter. -/
def parse (text : String) : Except UnknownOption Dialect :=
  let s := String.ofList (lowerText (trim text.toList))
  if s = "php" then .ok php
  else if s ∈ ["javascript", "js", "mjs", "ecmascript", "es"] then .ok javaScript
  else .error ⟨.dialect, text⟩

end Dialect

end EntityClasses
