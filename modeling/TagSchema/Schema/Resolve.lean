import TagSchema.Schema.Definition
import TagSchema.Schema.Error
import TagSchema.Schema.Names
import TagSchema.Number.MathType
import TagSchema.Tag.ClassTable

/-!
# Resolved schemas

Resolving checks each definition by itself and fills in what it leaves open: identifiers, constants,
masks, widths and the members of superclasses. A name is defined at most once.
-/

namespace TagSchema

/-- An option of an enum or a flag of a bitfield. -/
structure ResolvedOption where
  name : String
  displayName : String
  constant : String
  value : Nat
  description : Option String
  excluded : Bool
  cacheOnly : Bool
  readOnly : Bool
  deriving DecidableEq

/-- The bit of a flag, in a word of 32 bits. -/
def ResolvedOption.bit (flag : ResolvedOption) : UInt32 := 1 <<< UInt32.ofNat flag.value

/-- An enum. -/
structure ResolvedEnum where
  name : String
  group : String
  constantPrefix : String
  width : Nat
  options : List ResolvedOption
  description : Option String
  deriving DecidableEq

/-- A bitfield. -/
structure ResolvedBitfield where
  name : String
  group : String
  constantPrefix : String
  width : Nat
  flags : List ResolvedOption
  /-- The bits of all flags. -/
  declaredMask : Nat
  /-- The bits of the flags that are not excluded. -/
  fullMask : Nat
  cacheOnlyMask : Nat
  readOnlyMask : Nat
  description : Option String
  deriving DecidableEq

/-- A field of a struct. -/
structure ResolvedField where
  displayName : String
  identifier : String
  /-- Whether the field takes several words of a layout. -/
  compound : Bool
  /-- The classes of a dependency with the members of superclasses; none for any class. -/
  classes : List String
  readOnly : Bool
  record : FieldRecord
  deriving DecidableEq

/-- A struct. -/
structure ResolvedStruct where
  name : String
  group : String
  inherits : Option String
  fields : List ResolvedField
  size : Nat
  title : Option String
  minimum : Option Nat
  maximum : Option Nat
  readOnly : Bool
  description : Option String
  deriving DecidableEq

/-- The definitions of a run, in the order in which they were loaded. -/
structure SchemaSet where
  enums : List ResolvedEnum := []
  bitfields : List ResolvedBitfield := []
  structs : List ResolvedStruct := []

/-- The type of array fields. -/
def reflexiveType : String := "TagReflexive"

/-- The types whose stored form is a handle. -/
def handleTypes : List String := ["TagDependency", reflexiveType, "TagDataOffset"]

/-- Whether values of a type take several words. -/
def isCompoundType (typeName : String) : Bool :=
  (MathType.ofName? typeName).isSome || handleTypes.contains typeName

namespace ResolvedEnum

/-- The names of the options. -/
def names (e : ResolvedEnum) : List String := e.options.map (·.displayName)

/-- The values that the enum does not allow though they have a name. -/
def excludedValues (e : ResolvedEnum) : List Nat := (e.options.filter (·.excluded)).map (·.value)

end ResolvedEnum

/-- The names of the flags. -/
def ResolvedBitfield.names (b : ResolvedBitfield) : List String := b.flags.map (·.displayName)

namespace SchemaSet

/-- The enum of a name. -/
def enum? (schema : SchemaSet) (name : String) : Option ResolvedEnum :=
  schema.enums.find? (·.name = name)

/-- The bitfield of a name. -/
def bitfield? (schema : SchemaSet) (name : String) : Option ResolvedBitfield :=
  schema.bitfields.find? (·.name = name)

/-- The struct of a name. -/
def struct? (schema : SchemaSet) (name : String) : Option ResolvedStruct :=
  schema.structs.find? (·.name = name)

end SchemaSet

namespace Resolve

/-- The width of enums that declare none. -/
def defaultEnumWidth : Nat := 16

/-- Checks that a width can store that many options: their values for an enum, one bit each for a
bitfield. -/
def checkWidth (name : String) (width count capacity : Nat) : Except SchemaError Unit :=
  if width ≠ 8 ∧ width ≠ 16 ∧ width ≠ 32 then .error (.invalidWidth name width)
  else if capacity < count then .error (.widthOverflow name count width)
  else .ok ()

/-- An option whose value is its position. -/
def option (constantPrefix : String) (value : Nat) (record : OptionRecord) : ResolvedOption :=
  let detail := record.detail
  { name := detail.name
    displayName := detail.displayName.getD detail.name
    constant := Names.optionConstant constantPrefix (detail.memberName.getD detail.name)
    value
    description := detail.description
    excluded := detail.excluded
    cacheOnly := detail.cacheOnly
    readOnly := detail.readOnly }

/-- The options of a list. -/
def options (constantPrefix : String) (records : List OptionRecord) : List ResolvedOption :=
  records.mapIdx (option constantPrefix)

/-- The bits of the flags that satisfy a condition. -/
def maskOf (flags : List ResolvedOption) (condition : ResolvedOption → Bool) : UInt32 :=
  (flags.filter condition).foldl (fun mask flag => mask ||| flag.bit) 0

/-- The lowest bits, that many of them. A word has no bit to shift to for all of them. -/
def lowMask (count : Nat) : UInt32 :=
  if 32 ≤ count then 0xFFFFFFFF else (1 <<< UInt32.ofNat count) - 1

/-- An enum. -/
def enum (group : String) (record : EnumRecord) : Except SchemaError ResolvedEnum := do
  let width := record.width.getD defaultEnumWidth
  checkWidth record.name width record.options.length (1 <<< width)
  let constantPrefix := Names.constantPrefix record.name
  return { name := record.name, group, constantPrefix, width
           options := options constantPrefix record.options, description := record.description }

/-- A bitfield. -/
def bitfield (group : String) (record : BitfieldRecord) : Except SchemaError ResolvedBitfield := do
  checkWidth record.name record.width record.fields.length record.width
  let constantPrefix := Names.constantPrefix (record.name ++ "Flag")
  let flags := options constantPrefix record.fields
  let declared := lowMask flags.length
  let excluded := maskOf flags (·.excluded)
  return { name := record.name, group, constantPrefix, width := record.width, flags
           declaredMask := declared.toNat
           fullMask := (declared &&& ~~~excluded).toNat
           cacheOnlyMask := (maskOf flags (·.cacheOnly) &&& ~~~excluded).toNat
           readOnlyMask := (maskOf flags (·.readOnly) &&& ~~~excluded).toNat
           description := record.description }

/-- A field at a position of a struct whose earlier named fields have the given identifiers. -/
def field (owner : StructRecord) (identifiers : List String) (position : Nat)
    (record : FieldRecord) :
    Except SchemaError ResolvedField := do
  if record.isPadding then
    if record.size.getD 0 = 0 then
      throw (.invalidField owner.name s!"padding #{position}" .emptyPadding)
    return { displayName := "", identifier := s!"_padding_{position}", compound := false
             classes := []
             readOnly := true, record }
  let some name := record.name
    | throw (.invalidField owner.name s!"field #{position}" .noName)
  let identifier := record.memberName.getD (Names.memberName name)
  if record.default.isSome && record.cacheOnly then
    throw (.defaultOnCacheOnly owner.name identifier)
  if identifiers.contains identifier then
    throw (.invalidField owner.name identifier .nameReused)
  return { displayName := record.displayName.getD name
           identifier
           compound := isCompoundType record.typeName
           classes := ClassTable.expand record.classes
           readOnly := record.readOnly.getD owner.readOnly
           record }

/-- The rest of the fields of a struct. -/
def fields (owner : StructRecord) (identifiers : List String) (position : Nat) :
    List FieldRecord → Except SchemaError (List ResolvedField)
  | [] => return []
  | record :: rest => do
    let resolved ← field owner identifiers position record
    let identifiers := if record.isPadding then identifiers else resolved.identifier :: identifiers
    return resolved :: (← fields owner identifiers (position + 1) rest)

/-- A struct. -/
def struct (group : String) (record : StructRecord) : Except SchemaError ResolvedStruct := do
  let fields ← fields record [] 0 record.fields
  return { name := record.name, group, inherits := record.inherits, fields, size := record.size
           title := record.title, minimum := record.minimum, maximum := record.maximum
           readOnly := record.readOnly, description := record.description }

/-- The names defined so far and those of a group; fails at the first one that comes again. -/
def defineNames (seen : List String) : List Definition → Except SchemaError (List String)
  | [] => return seen
  | definition :: rest =>
    if seen.contains definition.name then throw (.duplicate definition.name)
    else defineNames (definition.name :: seen) rest

/-- The schema with one more group. The enums of a group come first, then its bitfields, then its
structs. -/
def addGroup (seen : List String) (schema : SchemaSet) (group : DefinitionGroup) :
    Except SchemaError (List String × SchemaSet) := do
  let seen ← defineNames seen group.definitions
  let enums ← group.enums.mapM (enum group.name)
  let bitfields ← group.bitfields.mapM (bitfield group.name)
  let structs ← group.structs.mapM (struct group.name)
  return (seen, { enums := schema.enums ++ enums, bitfields := schema.bitfields ++ bitfields
                  structs := schema.structs ++ structs })

end Resolve

/-- The schema defined by some groups. -/
def SchemaSet.resolve (groups : List DefinitionGroup) : Except SchemaError SchemaSet := do
  let (_, schema) ← groups.foldlM (fun (seen, schema) group => Resolve.addGroup seen schema group)
    (([] : List String), ({} : SchemaSet))
  return schema

end TagSchema
