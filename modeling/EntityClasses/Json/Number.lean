import EntityClasses.Json.Basic

/-!
# JSON numbers

A number literal and the value it is read as. The digits of a double are gathered in a 64-bit
significand, digits that no longer fit only move the point, and the result is the significand
multiplied with or divided by a power of ten, which may miss the nearest double by a little.
-/
namespace EntityClasses.Json

structure NumberLiteral where
  negative : Bool
  whole : List Char
  fraction : List Char
  /-- Whether the exponent is negative, and its digits. -/
  exponent : Option (Bool × List Char)
  deriving DecidableEq, Repr

namespace NumberLiteral

/-- Digits and exponent mark of the part behind the sign. -/
def ofExponent? (s : List Char) : Option (Option (Bool × List Char)) :=
  match s with
  | [] => some none
  | mark :: r =>
    let (negative, digits) :=
      match r with
      | '-' :: d => (true, d)
      | '+' :: d => (false, d)
      | d => (false, d)
    if (mark = 'e' ∨ mark = 'E') ∧ digits ≠ [] ∧ digits.all Char.isDigit then
      some (some (negative, digits))
    else none

def ofFraction? (s : List Char) : Option (List Char × Option (Bool × List Char)) :=
  match s with
  | '.' :: r =>
    let digits := r.takeWhile Char.isDigit
    if digits = [] then none
    else (ofExponent? (r.dropWhile Char.isDigit)).map fun e => (digits, e)
  | s => (ofExponent? s).map fun e => ([], e)

/-- A whole part begins with zero only if it is zero. -/
def parse? (s : List Char) : Option NumberLiteral := do
  let (negative, s) :=
    match s with
    | '-' :: r => (true, r)
    | s => (false, s)
  let whole := s.takeWhile Char.isDigit
  if whole = [] ∨ whole.head? = some '0' ∧ whole ≠ ['0'] then none
  else
    let (fraction, exponent) ← ofFraction? (s.dropWhile Char.isDigit)
    return ⟨negative, whole, fraction, exponent⟩

end NumberLiteral

def digitValue (c : Char) : Nat :=
  c.toNat - 48

/-- The largest 64-bit significand. -/
def maxSignificand : Nat := 0xFFFFFFFFFFFFFFFF

/-- Gathers digits into a significand and stops at the first that does not fit; the second
component counts the digits gathered. -/
def gather (significand : Nat) : List Char → Nat × Nat
  | [] => (significand, 0)
  | c :: r =>
    let next := significand * 10 + digitValue c
    if next ≤ maxSignificand then ((gather next r).1, (gather next r).2 + 1) else (significand, 0)

/-- The largest number whose negation is a signed 64-bit integer. -/
def maxNegated : Nat := 0x8000000000000000

/-- The largest exponent that is told apart from larger ones. -/
def maxExponent : Int := 0x7FFFFFFF

def clampExponent (e : Int) : Int :=
  max (-maxExponent - 1) (min maxExponent e)

def powerOfTen (k : Nat) : Float :=
  Float.ofScientific 1 false k

/-- Divides by `10^308` until the exponent is in reach of one more division. -/
def scaleDown : Nat → Float → Int → Float
  | 0, x, _ => x
  | n + 1, x, e =>
    if x == 0 then x
    else if -308 ≤ e then x / powerOfTen (-e).toNat
    else scaleDown n (x / powerOfTen 308) (e + 308)

/-- The double for a significand and a power of ten; none if it is too large. -/
def scale? (significand : Nat) (e : Int) : Option Float :=
  let x := Float.ofNat significand
  if e < 0 then some (scaleDown 4 x e)
  else if e ≤ 308 then
    let y := x * powerOfTen e.toNat
    if y.isInf then none else some y
  else if significand = 0 then some x
  else none

def signed (negative : Bool) (x : Float) : Float :=
  if negative then -x else x

namespace NumberLiteral

def magnitude? (l : NumberLiteral) : Option Float :=
  let (w, taken) := gather 0 l.whole
  let (significand, placed) := gather w l.fraction
  let shift : Int := (l.whole.length - taken : Nat) - (placed : Nat)
  match l.exponent with
  | none => scale? significand shift
  | some (negative, digits) =>
    let e : Int := digits.foldl (fun n c => n * 10 + digitValue c) 0
    if e ≤ maxExponent then
      scale? significand (clampExponent (if negative then shift - e else shift + e))
    else if significand = 0 ∨ negative then some 0
    else none

def wholeValue (l : NumberLiteral) : Nat :=
  l.whole.foldl (fun n c => n * 10 + digitValue c) 0

/-- An integer if the literal is one and fits; a negative zero is a double. -/
def value? (l : NumberLiteral) : Option Json :=
  let n := l.wholeValue
  if l.fraction = [] ∧ l.exponent = none ∧ !l.negative ∧ n ≤ maxSignificand then some (.int n)
  else if l.fraction = [] ∧ l.exponent = none ∧ l.negative ∧ 0 < n ∧ n ≤ maxNegated then
    some (.int (-n))
  else l.magnitude?.map fun x => .float (signed l.negative x)

end NumberLiteral

end EntityClasses.Json
