import EntityClasses.Json.Basic
import EntityClasses.SortedMap

/-!
# Table rows
-/
namespace EntityClasses

/-- The values of a row under their column names. -/
abbrev Row := SortedMap String Json

end EntityClasses
