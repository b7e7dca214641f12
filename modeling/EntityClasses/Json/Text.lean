/-!
# JSON string literals

Writing escapes quotes, backslashes and control characters below the space. Reading also takes `\/`
and `\u` escapes of UTF-16 units; two of them can make up one character, and a unit that stands
alone stands for none.
-/
namespace EntityClasses.Json

def hexDigit (n : Nat) : Char :=
  if n < 10 then Char.ofNat (48 + n) else Char.ofNat (87 + n)

def escapeChar (c : Char) : List Char :=
  match c with
  | '"' => ['\\', '"']
  | '\\' => ['\\', '\\']
  | '\n' => ['\\', 'n']
  | '\r' => ['\\', 'r']
  | '\t' => ['\\', 't']
  | '\x08' => ['\\', 'b']
  | '\x0c' => ['\\', 'f']
  | c =>
    if c.toNat < 32 then
      ['\\', 'u', '0', '0', hexDigit (c.toNat / 16), hexDigit (c.toNat % 16)]
    else [c]

/-- The text between the quotes. -/
def escape (s : List Char) : List Char :=
  s.flatMap escapeChar

def literal (s : String) : List Char :=
  '"' :: escape s.toList ++ ['"']

def hexValue? (c : Char) : Option Nat :=
  if '0' ≤ c ∧ c ≤ '9' then some (c.toNat - 48)
  else if 'a' ≤ c ∧ c ≤ 'f' then some (c.toNat - 87)
  else if 'A' ≤ c ∧ c ≤ 'F' then some (c.toNat - 55)
  else none

/-- What a literal is made of: characters, and UTF-16 units written as escapes. -/
inductive Piece
  | char (c : Char)
  | unit (n : Nat)

def simpleEscape? : Char → Option Char
  | '"' => some '"'
  | '\\' => some '\\'
  | '/' => some '/'
  | 'b' => some '\x08'
  | 'f' => some '\x0c'
  | 'n' => some '\n'
  | 'r' => some '\r'
  | 't' => some '\t'
  | _ => none

/-- The pieces of a text between quotes; none if it holds a control character or an escape that
does not exist. -/
def pieces? : List Char → Option (List Piece)
  | [] => some []
  | '\\' :: 'u' :: a :: b :: c :: d :: r => do
    let a ← hexValue? a
    let b ← hexValue? b
    let c ← hexValue? c
    let d ← hexValue? d
    let rest ← pieces? r
    return .unit (((a * 16 + b) * 16 + c) * 16 + d) :: rest
  | '\\' :: e :: r => do
    let c ← simpleEscape? e
    let rest ← pieces? r
    return .char c :: rest
  | c :: r => if c = '\\' ∨ c.toNat < 32 then none else (pieces? r).map (.char c :: ·)

def isLeading (n : Nat) : Bool :=
  0xD800 ≤ n && n < 0xDC00

def isTrailing (n : Nat) : Bool :=
  0xDC00 ≤ n && n < 0xE000

/-- The characters that pieces stand for; none if a surrogate stands alone. -/
def joinPieces? : List Piece → Option (List Char)
  | [] => some []
  | .char c :: r => (joinPieces? r).map (c :: ·)
  | .unit n :: .unit m :: r =>
    if isLeading n then
      if isTrailing m then
        (joinPieces? r).map (Char.ofNat (0x10000 + (n - 0xD800) * 1024 + (m - 0xDC00)) :: ·)
      else none
    else if isTrailing n then none
    else (joinPieces? (.unit m :: r)).map (Char.ofNat n :: ·)
  | .unit n :: r =>
    if isLeading n || isTrailing n then none else (joinPieces? r).map (Char.ofNat n :: ·)

end EntityClasses.Json
