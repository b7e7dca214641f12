/-!
# Texts as lines

A rendered text is a list of lines, each ended by a line feed.
-/
namespace EntityClasses

def unlines (lines : List String) : String :=
  .ofList (lines.flatMap fun l => l.toList ++ ['\n'])

/-- Lines followed by an empty one; nothing for no lines. -/
def block (lines : List String) : List String :=
  if lines.isEmpty then [] else lines ++ [""]

/-- Keeps the first of several equal lines. Empty lines count as lines; a line feed at the very end
ends the last line and stays. -/
def dropRepeatedLines (text : List Char) : List Char :=
  if text.getLast? = some '\n' then
    ['\n'].intercalate (text.dropLast.splitOn '\n').eraseDups ++ ['\n']
  else ['\n'].intercalate (text.splitOn '\n').eraseDups

end EntityClasses
