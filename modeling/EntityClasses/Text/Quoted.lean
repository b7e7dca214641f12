/-!
# Single-quoted literals

A backslash stands in front of each quote and each backslash of the text; all other characters
stand for themselves.
-/
namespace EntityClasses

def escapeQuoted : List Char → List Char
  | [] => []
  | c :: r => if c = '\\' ∨ c = '\'' then '\\' :: c :: escapeQuoted r else c :: escapeQuoted r

def quoted (s : String) : String :=
  .ofList ('\'' :: escapeQuoted s.toList ++ ['\''])

end EntityClasses
