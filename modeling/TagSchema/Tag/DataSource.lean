/-!
# Data sources

Where the bytes of a blob live once its tag is in a bundle, and how a member finds them.
-/

namespace TagSchema

/-- Where bytes outside the structs of a bundle come from. -/
inductive DataSource where
  /-- Addressed like structs. -/
  | tagData
  /-- The raw data of the bundle itself. -/
  | cache
  | bitmaps
  | sounds
  | loc
  deriving DecidableEq, Repr

namespace DataSource

/-- The name of a source. -/
def name : DataSource → String
  | .tagData => "TagData"
  | .cache => "Cache"
  | .bitmaps => "Bitmaps"
  | .sounds => "Sounds"
  | .loc => "Loc"

/-- All sources. -/
def all : List DataSource := [.tagData, .cache, .bitmaps, .sounds, .loc]

/-- The external source kept in the named file. -/
def ofFile? (file : String) : Option DataSource :=
  if file = "bitmaps.map" then some .bitmaps
  else if file = "sounds.map" then some .sounds
  else if file = "loc.map" then some .loc
  else none

end DataSource

/-- How a member finds the bytes of its blob. -/
inductive BlobSelector where
  /-- By a pointer, like a struct. -/
  | pointer
  /-- By an offset into the raw data of the bundle. -/
  | fileOffset
  /-- By an offset into an external file, or into the raw data of the bundle when it is there. -/
  | external (source : DataSource)
  deriving DecidableEq

end TagSchema
