/-!
# Shortest decimals

The decimal with the fewest digits that reads back as a given positive double, and of those the
nearest. A double `m · 2^q` owns the numbers between the midpoints to its neighbours, both midpoints
included when `m` is even; below a power of two the lower neighbour is half as far away. On the grid
of multiples of a power of ten only the two grid points next to the double need a test.
-/
namespace EntityClasses

/-- The positive number `mantissa · 2^exponent`. -/
structure Binary where
  mantissa : Nat
  exponent : Int
  deriving DecidableEq, Repr

/-- The number `digits · 10^exponent`. -/
structure Decimal where
  digits : Nat
  exponent : Int
  deriving DecidableEq, Repr

namespace Binary

/-- The leading bit of a full mantissa, which is not stored. -/
def hiddenBit : Nat := 0x10000000000000

/-- The size of a double, its bits read as a number; the sign bit does not matter. -/
def ofBits (bits : Nat) : Binary :=
  let fraction : Nat := bits % hiddenBit
  let scale : Nat := bits / hiddenBit % 2048
  if scale = 0 then ⟨fraction, -1074⟩ else ⟨fraction + hiddenBit, scale - 1075⟩

/-- Whether the neighbour below is half as far away as the one above. -/
def narrowBelow (x : Binary) : Bool :=
  x.mantissa = hiddenBit && x.exponent > -1074

/-- Factors that bring a quarter of the last binary place, and a unit of the grid `10^k`, to a
common scale. -/
def scales (x : Binary) (k : Int) : Nat × Nat :=
  (Nat.pow 2 (x.exponent - 2).toNat * Nat.pow 10 (-k).toNat,
   Nat.pow 2 (2 - x.exponent).toNat * Nat.pow 10 k.toNat)

/-- Whether `p · 10^k` reads back as `x`. -/
def readsBack (x : Binary) (k : Int) (p : Nat) : Bool :=
  let (binary, decimal) := x.scales k
  let low := (4 * x.mantissa - if x.narrowBelow then 1 else 2) * binary
  let high := (4 * x.mantissa + 2) * binary
  let point := p * decimal
  if x.mantissa % 2 = 0 then low ≤ point && point ≤ high else low < point && point < high

/-- The nearer of the two grid points `p` and `p + 1`; the even one when both are as near. -/
def nearer (x : Binary) (k : Int) (p : Nat) : Nat :=
  let (binary, decimal) := x.scales k
  let value := 4 * x.mantissa * binary
  let below := value - p * decimal
  let above := (p + 1) * decimal - value
  if below < above then p else if above < below then p + 1 else if p % 2 = 0 then p else p + 1

/-- A point of the grid `10^k` that reads back as `x`. -/
def onGrid? (x : Binary) (k : Int) : Option Decimal :=
  let (binary, decimal) := x.scales k
  let p := 4 * x.mantissa * binary / decimal
  match x.readsBack k p, x.readsBack k (p + 1) with
  | true, true => some ⟨x.nearer k p, k⟩
  | true, false => some ⟨p, k⟩
  | false, true => some ⟨p + 1, k⟩
  | false, false => none

/-- The `k` with `10^k ≤ x < 10^(k+1)`. -/
def magnitude (x : Binary) : Int :=
  let num := x.mantissa * Nat.pow 2 x.exponent.toNat
  let den := Nat.pow 2 (-x.exponent).toNat
  if den ≤ num then (Nat.toDigits 10 (num / den)).length - 1
  else -(Nat.toDigits 10 ((den - 1) / num)).length

end Binary

namespace Decimal

def dropZeros : Nat → Decimal → Decimal
  | 0, d => d
  | n + 1, d => if d.digits % 10 = 0 then dropZeros n ⟨d.digits / 10, d.exponent + 1⟩ else d

/-- Seventeen digits always suffice. -/
def shortest (x : Binary) : Decimal :=
  let found := (List.range 17).findSome? fun (n : Nat) => x.onGrid? (x.magnitude - n)
  dropZeros 17 (found.getD ⟨0, 0⟩)

end Decimal

end EntityClasses
