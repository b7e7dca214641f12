import EntityClasses.Json.Basic
import EntityClasses.Json.Float
import EntityClasses.Json.Text

/-!
# Writing JSON

Compact text: no white space between the parts.
-/
namespace EntityClasses.Json

def intText (n : Int) : List Char :=
  if n < 0 then '-' :: Nat.toDigits 10 n.natAbs else Nat.toDigits 10 n.natAbs

mutual

def chars : Json → List Char
  | null => ['n', 'u', 'l', 'l']
  | bool true => ['t', 'r', 'u', 'e']
  | bool false => ['f', 'a', 'l', 's', 'e']
  | int n => intText n
  | float x => floatText x
  | text s => literal s
  | array [] => ['[', ']']
  | array (v :: r) => '[' :: chars v ++ itemsTail r
  | object [] => ['{', '}']
  | object ((k, v) :: r) => '{' :: literal k ++ ':' :: chars v ++ membersTail r

def itemsTail : List Json → List Char
  | [] => [']']
  | v :: r => ',' :: chars v ++ itemsTail r

def membersTail : List (String × Json) → List Char
  | [] => ['}']
  | (k, v) :: r => ',' :: literal k ++ ':' :: chars v ++ membersTail r

end

def encode (v : Json) : String :=
  .ofList v.chars

end EntityClasses.Json
