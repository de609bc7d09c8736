import TagSchema.Decimal.Binary

/-!
# Shortest decimals

The decimal with the fewest digits that reads back as a given floating-point number, and the nearest
of those. The numbers that read back form an interval around the value; the grids of multiples of a
power of ten are tried from the coarsest on, and on each of them only the two neighbours of the
value can be the answer.
-/

namespace TagSchema

/-- The number `digits * 10 ^ exponent`. -/
structure Decimal where
  digits : Nat
  exponent : Int
  deriving DecidableEq

namespace Decimal

/-- The value and the ends of the interval that rounds to it, as numerators over one denominator. -/
structure Span where
  low : Nat
  value : Nat
  high : Nat
  denominator : Nat
  /-- The ends round to the value. -/
  closed : Bool

/-- The interval around `significand * 2 ^ exponent`. -/
def Span.around (significand : Nat) (exponent : Int) (narrow : Bool) : Span :=
  let scale := if 2 ≤ exponent then 1 <<< (exponent - 2).toNat else 1
  { low := (4 * significand - (if narrow then 1 else 2)) * scale
    value := 4 * significand * scale
    high := (4 * significand + 2) * scale
    denominator := if 2 ≤ exponent then 1 else 1 <<< (2 - exponent).toNat
    closed := significand % 2 = 0 }

/-- The answer on the grid of multiples of `10 ^ exponent`, if it has one. -/
def Span.onGrid (span : Span) (exponent : Int) : Option Decimal :=
  let scale := if 0 ≤ exponent then 1 else Nat.pow 10 (-exponent).toNat
  let unit := span.denominator * (if 0 ≤ exponent then Nat.pow 10 exponent.toNat else 1)
  let low := span.low * scale
  let value := span.value * scale
  let high := span.high * scale
  let below := value / unit
  let inside (n : Nat) : Bool :=
    if span.closed then decide (low ≤ n * unit ∧ n * unit ≤ high)
    else decide (low < n * unit ∧ n * unit < high)
  let twice := 2 * (value % unit)
  let above := below + 1
  let nearest := if twice < unit ∨ (twice = unit ∧ below % 2 = 0) then below else above
  let other := if nearest = below then above else below
  if inside nearest then some ⟨nearest, exponent⟩
  else if inside other then some ⟨other, exponent⟩
  else none

/-- The shortest decimal that reads back as `significand * 2 ^ exponent`, a positive number.
Eighteen digits always do. -/
def shortest (significand : Nat) (exponent : Int) (narrow : Bool) : Decimal :=
  let span := Span.around significand exponent narrow
  let top : Int := ((significand.log2 : Int) + exponent + 1) * 30103 / 100000 + 1
  ((List.range 22).findSome? fun (i : Nat) => span.onGrid (top - i)).getD ⟨significand, 0⟩

end Decimal

end TagSchema
