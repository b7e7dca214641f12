/-!
# Option texts that name no option
-/
namespace EntityClasses

inductive OptionKind
  | casing
  | dialect
  deriving DecidableEq, Repr

def OptionKind.name : OptionKind → String
  | casing => "casing"
  | dialect => "dialect"

/-- The text is kept as it was given, surrounding white space included. -/
structure UnknownOption where
  kind : OptionKind
  text : String
  deriving DecidableEq, Repr

def UnknownOption.message (e : UnknownOption) : String :=
  "unknown " ++ e.kind.name ++ " `" ++ e.text ++ "`"

end EntityClasses
