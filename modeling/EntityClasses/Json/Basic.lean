/-!
# JSON values

Numbers without fraction and exponent are integers as long as they fit into 64 bits, signed or
unsigned; all others are doubles. The members of an object are kept in the order in which they are
written.
-/
namespace EntityClasses

inductive Json
  | null
  | bool (b : Bool)
  | int (n : Int)
  | float (x : Float)
  | text (s : String)
  | array (items : List Json)
  | object (members : List (String × Json))

namespace Json

def isNull : Json → Bool
  | null => true
  | _ => false

end Json

end EntityClasses
