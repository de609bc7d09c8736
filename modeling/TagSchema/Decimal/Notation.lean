import TagSchema.Decimal.Shortest

/-!
# Decimal notation

How a floating-point number is spelled: where the point goes, when an exponent is written instead,
and what zero, the infinities and NaN look like.
-/

namespace TagSchema

/-- The choices of one spelling. A number is `0.d₁d₂… * 10 ^ point`. -/
structure DecimalStyle where
  /-- Whether numbers with this `point` are written without an exponent. -/
  positional : Int → Bool
  /-- What follows an integral number written without an exponent. -/
  integralTail : String

namespace DecimalStyle

/-- Never an exponent, and no point in integral numbers. -/
def plain : DecimalStyle := ⟨fun _ => true, ""⟩

/-- An exponent below `10 ^ -4` and from `10 ^ 16` on; integral numbers end in `.0`. -/
def detailed : DecimalStyle := ⟨fun point => decide (-3 ≤ point ∧ point ≤ 16), ".0"⟩

/-- An exponent below `10 ^ -5` and from `10 ^ 16` on; integral numbers end in `.0`. -/
def json : DecimalStyle := ⟨fun point => decide (-4 ≤ point ∧ point ≤ 16), ".0"⟩

/-- A run of zeros. -/
def zeroText (n : Nat) : String := String.ofList (List.replicate n '0')

/-- The spelling of a positive decimal. -/
def renderDecimal (style : DecimalStyle) (d : Decimal) : String :=
  let digits := Nat.toDigits 10 d.digits
  let point : Int := digits.length + d.exponent
  if style.positional point then
    if point ≤ 0 then "0." ++ zeroText (-point).toNat ++ String.ofList digits
    else if digits.length ≤ point.toNat then
      String.ofList digits ++ zeroText (point.toNat - digits.length) ++ style.integralTail
    else
      String.ofList (digits.take point.toNat) ++ "." ++ String.ofList (digits.drop point.toNat)
  else
    let tail := digits.drop 1
    String.ofList (digits.take 1) ++ (if tail.isEmpty then "" else "." ++ String.ofList tail) ++
      "e" ++ toString (point - 1)

/-- The spelling of what a floating-point word stands for. -/
def renderNumber (style : DecimalStyle) : BinaryNumber → String
  | .nan => "NaN"
  | .infinite negative => if negative then "-inf" else "inf"
  | .finite negative significand exponent narrow =>
    (if negative then "-" else "") ++
      (if significand = 0 then "0" ++ style.integralTail
      else style.renderDecimal (Decimal.shortest significand exponent narrow))

/-- The spelling of a double-precision number. -/
def render64 (style : DecimalStyle) (x : Binary64) : String :=
  style.renderNumber (BinaryFormat.double.read x.bits.toNat)

/-- The spelling of a single-precision word. -/
def render32 (style : DecimalStyle) (bits : Nat) : String :=
  style.renderNumber (BinaryFormat.single.read bits)

end DecimalStyle

end TagSchema
