import TagSchema.Bytes

/-!
# The checksum of tag files

CRC-32 with the reflected polynomial `0xEDB88320`, one table look-up for each byte.
-/

namespace TagSchema.Checksum

/-- The polynomial, its highest power in the lowest bit. -/
def polynomial : UInt32 := 0xEDB88320

/-- One step of the division: the lowest bit leaves the register. -/
def shiftBit (crc : UInt32) : UInt32 :=
  if crc &&& 1 = 1 then (crc >>> 1) ^^^ polynomial else crc >>> 1

/-- Eight steps. -/
def shiftByte (crc : UInt32) : UInt32 := Nat.repeat shiftBit 8 crc

/-- The eight steps for each value of the lowest byte. -/
def table : Array UInt32 := Array.ofFn fun i : Fin 256 => shiftByte i.val.toUInt32

/-- The register after one more byte. -/
def feed (crc : UInt32) (b : UInt8) : UInt32 :=
  table[((crc ^^^ b.toUInt32) &&& 0xFF).toNat]?.getD 0 ^^^ (crc >>> 8)

/-- The checksum of some data. -/
def crc32 (data : Bytes) : UInt32 := ~~~(data.foldl feed 0xFFFFFFFF)

end TagSchema.Checksum
