import TagSchema.Bytes

/-!
# Hexadecimal

Offsets, sizes and codes are written in hexadecimal with the mark `0x`, and bytes as two digits
each.
-/

namespace TagSchema.Text

/-- The hexadecimal digits of a number, lower case, without leading zeros. -/
def hexDigits (value : Nat) : String := String.ofList (Nat.toDigits 16 value)

/-- A number with the mark `0x`. -/
def hex (value : Nat) : String := "0x" ++ hexDigits value

/-- A number with the mark `0x`, filled with zeros to at least `digits` digits. -/
def hexPadded (digits value : Nat) : String :=
  let text := hexDigits value
  "0x" ++ String.ofList (List.replicate (digits - text.length) '0') ++ text

/-- The value of a hexadecimal digit. -/
def hexValue? (c : Char) : Option Nat :=
  if '0' ≤ c ∧ c ≤ '9' then some (c.toNat - '0'.toNat)
  else if 'a' ≤ c ∧ c ≤ 'f' then some (c.toNat - 'a'.toNat + 10)
  else if 'A' ≤ c ∧ c ≤ 'F' then some (c.toNat - 'A'.toNat + 10)
  else none

/-! ### Bytes -/

/-- The two digits of each byte. -/
def hexOfBytes (bytes : Bytes) : String :=
  String.ofList
    (bytes.flatMap fun b => [Nat.digitChar (b.toNat / 16), Nat.digitChar (b.toNat % 16)])

/-- The bytes of the pairs of digits that a text begins with. -/
def bytesOfHex : List Char → Bytes
  | high :: low :: rest =>
    match hexValue? high, hexValue? low with
    | some h, some l => UInt8.ofNat (h * 16 + l) :: bytesOfHex rest
    | _, _ => []
  | _ => []

end TagSchema.Text
