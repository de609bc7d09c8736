/-!
# Binary floating point as numbers

A floating-point word is a sign, a whole number and a power of two. Reading a word apart and
rounding a fraction to the nearest word are done in exact arithmetic, so neither depends on the
machine.
-/

namespace TagSchema

/-- A double-precision number, as its bits. Two numbers are equal when their bits are: the signs of
zero and the payloads of NaN count. -/
structure Binary64 where
  bits : UInt64
  deriving DecidableEq, Inhabited

namespace Binary64

/-- The number that arithmetic works with. -/
def toFloat (x : Binary64) : Float := Float.ofBits x.bits

/-- The bits of a result of arithmetic. -/
def ofFloat (x : Float) : Binary64 := ⟨x.toBits⟩

/-- Zero with the positive sign. -/
def zero : Binary64 := ⟨0⟩

/-- Whether the number is neither infinite nor NaN. -/
def isFinite (x : Binary64) : Bool := decide ((x.bits.toNat >>> 52) % 2048 ≠ 2047)

end Binary64

/-- An interchange format: the stored bits of the significand and of the exponent. -/
structure BinaryFormat where
  fractionBits : Nat
  exponentBits : Nat

/-- Double precision. -/
def BinaryFormat.double : BinaryFormat := ⟨52, 11⟩

/-- Single precision. -/
def BinaryFormat.single : BinaryFormat := ⟨23, 8⟩

/-- What a word stands for. A finite number is `significand * 2 ^ exponent`; it is `narrow` when the
gap to its lower neighbour is half the gap to its upper one. -/
inductive BinaryNumber where
  | nan
  | infinite (negative : Bool)
  | finite (negative : Bool) (significand : Nat) (exponent : Int) (narrow : Bool)

namespace BinaryFormat

/-- The least exponent, shared by the subnormal numbers and the smallest normal ones. -/
def leastExponent (format : BinaryFormat) : Int :=
  2 - (1 <<< (format.exponentBits - 1) : Nat) - format.fractionBits

/-- The bit that a normal number has above the stored bits of its significand. -/
def implicitBit (format : BinaryFormat) : Nat := 1 <<< format.fractionBits

/-- The stored exponent of infinity and NaN. -/
def specialExponent (format : BinaryFormat) : Nat := (1 <<< format.exponentBits) - 1

/-- The parts of a word. -/
def read (format : BinaryFormat) (bits : Nat) : BinaryNumber :=
  let fraction := bits % format.implicitBit
  let exponent := (bits >>> format.fractionBits) % (1 <<< format.exponentBits)
  let negative := (bits >>> (format.fractionBits + format.exponentBits)) % 2 = 1
  if exponent = format.specialExponent then
    if fraction = 0 then .infinite negative else .nan
  else if exponent = 0 then .finite negative fraction format.leastExponent false
  else
    .finite negative (format.implicitBit + fraction) (format.leastExponent + (exponent - 1))
      (fraction = 0 ∧ 1 < exponent)

/-- The word of infinity. -/
def infinity (format : BinaryFormat) : Nat := format.specialExponent <<< format.fractionBits

/-- `numerator / denominator` rounded to a whole number, a half to the even neighbour. -/
def roundDiv (numerator denominator : Nat) : Nat :=
  let quotient := numerator / denominator
  let twice := 2 * (numerator % denominator)
  if twice < denominator ∨ (twice = denominator ∧ quotient % 2 = 0) then quotient else quotient + 1

/-- The word nearest to a positive fraction, ties to the even word, infinity past the greatest one.
The exponent is the one that leaves the quotient a full significand, or the least one; a carry out
of the significand then runs into the exponent of the word, as it should. -/
def ofRatio (format : BinaryFormat) (numerator denominator : Nat) : Nat :=
  let shifted (exponent : Int) : Nat × Nat :=
    if 0 ≤ exponent then (numerator, denominator <<< exponent.toNat)
    else (numerator <<< (-exponent).toNat, denominator)
  let guess : Int := numerator.log2 - denominator.log2 - format.fractionBits
  let (n, d) := shifted guess
  let exponent := max format.leastExponent (if n / d < format.implicitBit then guess - 1 else guess)
  let (n, d) := shifted exponent
  let word := ((exponent - format.leastExponent).toNat <<< format.fractionBits) + roundDiv n d
  min word format.infinity

/-- The word nearest to `digits * 10 ^ exponent`. Powers beyond every number of the format are not
computed. -/
def ofDecimal (format : BinaryFormat) (digits : Nat) (exponent : Int) : Nat :=
  if digits = 0 then 0
  else if 400 < exponent then format.infinity
  else if 0 ≤ exponent then format.ofRatio (digits * Nat.pow 10 exponent.toNat) 1
  else if exponent < -(400 + (Nat.log2 digits : Int)) then 0
  else format.ofRatio digits (Nat.pow 10 (-exponent).toNat)

/-- The bit of the sign. -/
def signBit (format : BinaryFormat) (negative : Bool) : Nat :=
  if negative then 1 <<< (format.fractionBits + format.exponentBits) else 0

/-- The word nearest to a number; every NaN has one word. -/
def write (format : BinaryFormat) : BinaryNumber → Nat
  | .nan => format.infinity + format.implicitBit / 2
  | .infinite negative => format.signBit negative + format.infinity
  | .finite negative significand exponent _ =>
    format.signBit negative +
      if significand = 0 then 0
      else if 0 ≤ exponent then format.ofRatio (significand <<< exponent.toNat) 1
      else format.ofRatio significand (1 <<< (-exponent).toNat)

/-- The word of one format nearest to what a word of another stands for. -/
def convert (source target : BinaryFormat) (bits : Nat) : Nat := target.write (source.read bits)

end BinaryFormat

end TagSchema
