import TagSchema.Word

/-!
# Definitions

The records that a schema is written in: enums, bitfields and structs with their options and fields,
in groups that are loaded together.
-/

namespace TagSchema

/-- An enum option or a flag, spelled out. -/
structure OptionDetail where
  name : String
  displayName : Option String := none
  memberName : Option String := none
  description : Option String := none
  excluded : Bool := false
  cacheOnly : Bool := false
  readOnly : Bool := false
  deriving DecidableEq

/-- An enum option or a flag: a bare name, or spelled out. -/
inductive OptionRecord where
  | bare (name : String)
  | detailed (detail : OptionDetail)
  deriving DecidableEq

/-- An option spelled out. -/
def OptionRecord.detail : OptionRecord → OptionDetail
  | .bare name => { name }
  | .detailed detail => detail

/-- An enum. Its width in bits is sixteen unless it says otherwise. -/
structure EnumRecord where
  name : String
  options : List OptionRecord
  width : Option Nat := none
  description : Option String := none
  deriving DecidableEq

/-- A set of flags. -/
structure BitfieldRecord where
  name : String
  width : Nat
  fields : List OptionRecord
  description : Option String := none
  deriving DecidableEq

/-- A default: one number for every component, or one for each. -/
inductive DefaultValue where
  | single (value : Binary64)
  | multiple (values : List Binary64)
  deriving DecidableEq

/-- The numbers of a default. -/
def DefaultValue.values : DefaultValue → List Binary64
  | .single value => [value]
  | .multiple values => values

/-- A field of a struct. Padding has no name. -/
structure FieldRecord where
  name : Option String := none
  typeName : String
  /-- The length of padding. -/
  size : Option Nat := none
  count : Option Nat := none
  bounds : Bool := false
  minimum : Option Binary64 := none
  maximum : Option Binary64 := none
  /-- The most elements that the stock tools allow. -/
  stockMaximum : Option Nat := none
  default : Option DefaultValue := none
  defaultSign : Bool := false
  order : Option ByteOrder := none
  classes : List String := []
  /-- The element of an array, or the struct that holds the target of an index. -/
  struct : Option String := none
  /-- The array that an index points into. -/
  reflexive : Option String := none
  nonNull : Bool := false
  cacheOnly : Bool := false
  unused : Bool := false
  hidden : Bool := false
  readOnly : Option Bool := none
  volatile : Bool := false
  normalize : Bool := false
  shiftedByOne : Bool := false
  fileOffset : Bool := false
  externalFile : Option String := none
  displayName : Option String := none
  memberName : Option String := none
  comment : Option String := none
  unit : Option String := none
  deriving DecidableEq

/-- The type of padding. -/
def FieldRecord.paddingType : String := "pad"

/-- Whether a field is padding. -/
def FieldRecord.isPadding (field : FieldRecord) : Bool := decide (field.typeName = paddingType)

/-- A struct. The size counts inherited fields. -/
structure StructRecord where
  name : String
  inherits : Option String := none
  fields : List FieldRecord
  size : Nat
  /-- The field that titles a value of the struct. -/
  title : Option String := none
  minimum : Option Nat := none
  maximum : Option Nat := none
  readOnly : Bool := false
  description : Option String := none
  deriving DecidableEq

/-- One record of a schema. -/
inductive Definition where
  | enum (record : EnumRecord)
  | bitfield (record : BitfieldRecord)
  | struct (record : StructRecord)
  deriving DecidableEq

/-- The name of a record. -/
def Definition.name : Definition → String
  | .enum record => record.name
  | .bitfield record => record.name
  | .struct record => record.name

/-- The records of one schema file. -/
structure DefinitionGroup where
  name : String
  definitions : List Definition

namespace DefinitionGroup

/-- The enums of a group. -/
def enums (group : DefinitionGroup) : List EnumRecord :=
  group.definitions.filterMap fun | .enum record => some record | _ => none

/-- The bitfields of a group. -/
def bitfields (group : DefinitionGroup) : List BitfieldRecord :=
  group.definitions.filterMap fun | .bitfield record => some record | _ => none

/-- The structs of a group. -/
def structs (group : DefinitionGroup) : List StructRecord :=
  group.definitions.filterMap fun | .struct record => some record | _ => none

end DefinitionGroup

end TagSchema
