/-!
# Tag identifiers

A bundle names its tags by identifiers. The low half of one is the position of the tag, the high
half the same position behind a salt.
-/

namespace TagSchema

/-- The identifier of a tag in a bundle. -/
structure TagId where
  code : UInt32
  deriving DecidableEq

namespace TagId

/-- The identifier of no tag. -/
def null : TagId := ⟨0xFFFFFFFF⟩

instance : Inhabited TagId := ⟨null⟩

/-- What is added to a position in the high half. -/
def salt : UInt32 := 0xE174

/-- The identifier of a position. Sixteen bits of it are kept. -/
def ofIndex (index : Nat) : TagId :=
  let position := UInt32.ofNat index &&& 0xFFFF
  ⟨((salt + position) <<< 16) ||| position⟩

/-- Whether the identifier names no tag. -/
def isNull (id : TagId) : Bool := decide (id = null)

/-- The position that the identifier names. -/
def index? (id : TagId) : Option Nat :=
  if id.isNull then none else some (id.code &&& 0xFFFF).toNat

end TagId

/-- The index of no element. -/
def nullIndex : UInt16 := 0xFFFF

end TagSchema
