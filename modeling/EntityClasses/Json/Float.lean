import EntityClasses.Decimal.Shortest

/-!
# Doubles in JSON

A double is written with the fewest digits that read back. From `0.00001` up to sixteen digits in
front of the point it is written out, with at least one digit behind the point; otherwise with an
exponent, signed in both directions.
-/
namespace EntityClasses.Json

def zeros (n : Nat) : List Char :=
  List.replicate n '0'

/-- Digits with the point behind the first `point` of them. -/
def plainDigits (digits : List Char) (point : Int) : List Char :=
  if digits.length ≤ point then digits ++ zeros (point.toNat - digits.length) ++ ['.', '0']
  else if 0 < point then digits.take point.toNat ++ '.' :: digits.drop point.toNat
  else ['0', '.'] ++ zeros (-point).toNat ++ digits

def scientificDigits (digits : List Char) (exponent : Int) : List Char :=
  let mantissa :=
    match digits with
    | d :: e :: r => d :: '.' :: e :: r
    | ds => ds
  mantissa ++ 'e' :: (if exponent < 0 then '-' else '+') :: Nat.toDigits 10 exponent.natAbs

def decimalText (d : Decimal) : List Char :=
  let digits := Nat.toDigits 10 d.digits
  let exponent := d.exponent + digits.length - 1
  if -5 ≤ exponent ∧ exponent ≤ 15 then plainDigits digits (exponent + 1)
  else scientificDigits digits exponent

def signBit : Nat := 0x8000000000000000

/-- The text of a finite double. -/
def floatText (x : Float) : List Char :=
  let bits := x.toBits.toNat
  let size := Binary.ofBits bits
  let text := if size.mantissa = 0 then ['0', '.', '0'] else decimalText (Decimal.shortest size)
  if bits < signBit then text else '-' :: text

end EntityClasses.Json
