import TagSchema.Schema.Resolve
import TagSchema.Text.Case

/-!
# Options and flags

What the values of enums and bitfields mean: an enum value is the position of an option, and a
bitfield has a bit for each flag.
-/

namespace TagSchema

namespace ResolvedEnum

/-- The name of a value. -/
def nameOf? (type : ResolvedEnum) (value : Nat) : Option String := type.names[value]?

/-- The first value with a name, where the case of ASCII letters does not count. -/
def valueOf? (type : ResolvedEnum) (name : String) : Option Nat :=
  type.names.findIdx? (Text.equalIgnoringAsciiCase · name)

/-- Whether a value has an option that is not excluded. -/
def isValid (type : ResolvedEnum) (value : Nat) : Bool :=
  decide (value < type.options.length) && !type.excludedValues.contains value

end ResolvedEnum

namespace ResolvedBitfield

/-- The flags that an editor shows: those that tag files keep. -/
def editableMask (type : ResolvedBitfield) : Nat :=
  type.fullMask - (type.fullMask &&& type.cacheOnlyMask)

end ResolvedBitfield

/-- Whether all the given flags are set. -/
def hasFlags {width : Nat} (bits flags : BitVec width) : Bool := decide (bits &&& flags = flags)

/-- Sets or clears the given flags. -/
def setFlags {width : Nat} (bits flags : BitVec width) (on : Bool) : BitVec width :=
  if on then bits ||| flags else bits &&& ~~~flags

end TagSchema
