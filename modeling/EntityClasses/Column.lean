/-!
# Table columns

A column as the catalog declares it; the declared type is free text such as `decimal(10,2)`.
-/
namespace EntityClasses

structure Column where
  name : String
  declared : String
  nullable : Bool
  deriving DecidableEq, Repr

end EntityClasses
