import TagSchema.Tag.Class
import TagSchema.Tag.DataSource
import TagSchema.Decimal.Notation

/-!
# Failures of tag data

What can go wrong when tag data is read, checked or built. A failure is a cause, wrapped in the
array elements and assets on the way to it; the wording of each is given by one function.
-/

namespace TagSchema

/-- A member of a struct, as messages name it. -/
structure Site where
  owner : String
  field : String

/-- The struct and the member. -/
def Site.render (site : Site) : String := site.owner ++ "::" ++ site.field

/-- A read or write past the end of something. -/
inductive Overrun where
  | buffer (need available : Nat)
  | fileHeader (length : Nat)
  | cursor (what : String) (need position left : Nat)
  | tooManyElements (what : String) (length : Nat)
  | addressSpace (site : Site)
  | countTooLarge (site : Site) (count : Nat)
  | noRoom (size position : Nat)
  | noStruct (index : Nat)
  | structWindow (index length size offset : Nat)
  | danglingPointer (target : Nat)
  | patchOutside (position : Nat)
  | belowBase (pointer : UInt32)
  | region (what : String) (size offset length : Nat)
  | noStore (source : DataSource)
  | rawDataFull

/-- Data whose structure is broken. -/
inductive Defect where
  | noMark
  | headerSize (found expected : Nat)
  | wrongClass (found expected : TagClass)
  | checksum (stored actual : UInt32)
  | leftOver (read length : Nat)
  | noTerminator (what : String)
  | earlyTerminator (what : String)
  | notUtf8 (what : String)
  | referenceClass
  | rejected (reason : String)

/-- A constraint that a value does not keep. -/
inductive Violation where
  | disallowedClass (allowed : List TagClass) (found : TagClass)
  | nullReference
  | tooFewElements (minimum : Nat)
  | tooManyElements (maximum : Nat)
  | belowMinimum (minimum value : Binary64)
  | aboveMaximum (maximum value : Binary64)
  | enumOutOfRange (value count : Nat)
  | enumExcluded (value : Nat)
  | notNormal (kind description : String)
  | invalidIndex (target : Option String) (member : String) (value length : Nat)

/-- A tag that is not known. -/
inductive UnknownTag where
  | position (index : Nat)
  | noBaseStruct (index : Nat)
  | id (code : UInt32)

/-- What was being done with an array element. -/
inductive Activity where
  | parse
  | compile
  | generate

/-- A failure. -/
inductive TagError where
  | outOfBounds (cause : Overrun)
  | invalidData (cause : Defect)
  /-- A violation, which has been reported already. -/
  | fatal (site : Site) (cause : Violation)
  | unknownTag (cause : UnknownTag)
  /-- A failure inside one element of an array. -/
  | element (activity : Activity) (site : Site) (index : Nat) (source : TagError)
  /-- A failure while something named was being processed. -/
  | within (task : String) (source : TagError)

/-- The wording of an overrun. -/
def Overrun.message : Overrun → String
  | .buffer need available => s!"need {Text.hex need} bytes, have {Text.hex available}"
  | .fileHeader length => s!"tag file is {length} bytes, smaller than its header"
  | .cursor what need position left =>
    s!"{what} needs {Text.hex need} bytes at {Text.hex position}, only {Text.hex left} left"
  | .tooManyElements what length => s!"{what} has too many elements ({length})"
  | .addressSpace site => s!"{site.render} runs past the address space"
  | .countTooLarge site count => s!"{site.render} count {count} is too large"
  | .noRoom size position => s!"no room for {Text.hex size} bytes at {Text.hex position}"
  | .noStruct index => s!"no struct #{index}"
  | .structWindow index length size offset =>
    s!"struct #{index} has {Text.hex length} bytes, wanted {Text.hex size} at {Text.hex offset}"
  | .danglingPointer target => s!"pointer to missing struct #{target}"
  | .patchOutside position => s!"pointer patch at {Text.hex position} is outside the bundle"
  | .belowBase pointer => s!"pointer {Text.hexPadded 8 pointer.toNat} is below the bundle"
  | .region what size offset length =>
    s!"{what}: {Text.hex size} bytes at {Text.hex offset} exceeds {Text.hex length}"
  | .noStore source => s!"no {source.name} data store is loaded"
  | .rawDataFull => "raw data exceeds 4 GiB"

/-- The wording of a defect. -/
def Defect.message : Defect → String
  | .noMark => "tag file header is missing blam"
  | .headerSize found expected =>
    s!"tag file header size is {Text.hex found}, expected {Text.hex expected}"
  | .wrongClass found expected => s!"tag file is a {found.render} tag, expected {expected.render}"
  | .checksum stored actual =>
    s!"tag file checksum mismatch ({Text.hexPadded 8 stored.toNat} " ++
      s!"!= {Text.hexPadded 8 actual.toNat})"
  | .leftOver read length =>
    s!"tag data was left over ({Text.hex read} of {Text.hex length} bytes read)"
  | .noTerminator what => s!"{what} is missing a null terminator"
  | .earlyTerminator what => s!"{what} size is smaller than expected"
  | .notUtf8 what => s!"{what} is not valid UTF-8"
  | .referenceClass =>
    "Corrupt tag reference (class in reference does not match class in referenced tag)"
  | .rejected reason => reason

/-- The wording of a count of array elements. -/
def blockCount (n : Nat) : String := s!"{n} " ++ if n = 1 then "block" else "blocks"

/-- The wording of a violation at a member. -/
def Violation.message (site : Site) : Violation → String
  | .disallowedClass allowed found =>
    s!"{site.render} must be{TagClass.renderChoice allowed}, found {found.render}, instead"
  | .nullReference => s!"{site.render} must not be null"
  | .tooFewElements minimum => s!"{site.render} must have at least {blockCount minimum}"
  | .tooManyElements maximum => s!"{site.render} must have no more than {blockCount maximum}"
  | .belowMinimum minimum value =>
    s!"{site.render} must be at least {DecimalStyle.plain.render64 minimum} " ++
      s!"(found {DecimalStyle.plain.render64 value})"
  | .aboveMaximum maximum value =>
    s!"{site.render} must be no more than {DecimalStyle.plain.render64 maximum} " ++
      s!"(found {DecimalStyle.plain.render64 value})"
  | .enumOutOfRange value count => s!"{site.render} is out of range ({value} >= {count})"
  | .enumExcluded value => s!"{site.render} has an invalid value ({value})"
  | .notNormal kind description => s!"{site.render} is not a normal {kind} {description}"
  | .invalidIndex target member value length =>
    let struct := target.getD "?"
    s!"{site.render} references an invalid index of {struct}::{member} ({value} >= {length})"

/-- The wording of an unknown tag. -/
def UnknownTag.message : UnknownTag → String
  | .position index => s!"#{index}"
  | .noBaseStruct index => s!"#{index} has no base struct"
  | .id code => Text.hexPadded 8 code.toNat

/-- The verb of an activity. -/
def Activity.verb : Activity → String
  | .parse => "parse"
  | .compile => "compile"
  | .generate => "generate"

namespace TagError

/-- The wording of a failure, without what caused it. -/
def message : TagError → String
  | .outOfBounds cause => "out of bounds: " ++ cause.message
  | .invalidData cause => "invalid tag data: " ++ cause.message
  | .fatal site cause => cause.message site
  | .unknownTag cause => "unknown tag: " ++ cause.message
  | .element activity site index _ => s!"failed to {activity.verb} {site.render} #{index}"
  | .within task _ => task

/-- The innermost failure. -/
def root : TagError → TagError
  | .element _ _ _ source | .within _ source => source.root
  | error => error

/-- The failures inside a failure, outermost first. -/
def causes : TagError → List TagError
  | .element _ _ _ source | .within _ source => source :: source.causes
  | _ => []

end TagError

end TagSchema
