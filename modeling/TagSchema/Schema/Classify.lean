import TagSchema.Layout
import TagSchema.Schema.EmissionOrder
import TagSchema.Schema.FieldKind
import TagSchema.Schema.Lineage

/-!
# Classified schemas

Classifying gives every field of every struct its kind and its offset. The fields of ancestors come
first, so the layout of a struct extends the layout of its parent.
-/

namespace TagSchema

/-- What is known about a field but for its kind. -/
structure FieldTraits where
  displayName : String
  identifier : String
  offset : Nat
  /-- The byte order of the field in both layouts, if it is not that of the layout. -/
  order : Option ByteOrder
  /-- Whether an ancestor defines the field. -/
  inherited : Bool
  cacheOnly : Bool
  unused : Bool
  hidden : Bool
  readOnly : Bool
  volatile : Bool
  comment : Option String
  unit : Option String
  deriving DecidableEq

/-- A field at its place in a struct. -/
structure ClassifiedField extends FieldTraits where
  kind : FieldKind
  deriving DecidableEq

/-- A struct with all its fields. -/
structure ClassifiedStruct where
  name : String
  group : String
  inherits : Option String
  fields : List ClassifiedField
  /-- The size that the schema declares. -/
  size : Nat
  /-- The size that the fields add up to. -/
  computedSize : Nat
  /-- The identifier of the field that titles a value. -/
  title : Option String

/-- A schema whose structs are in emission order. -/
structure ClassifiedSchema where
  enums : List ResolvedEnum
  bitfields : List ResolvedBitfield
  structs : List ClassifiedStruct

namespace FieldTraits

/-- Whether an editor may show the field, if its kind can be shown at all. -/
def isVisible (field : FieldTraits) : Bool :=
  !(field.hidden || field.cacheOnly || field.unused || field.order == some .little)

/-- Whether tag files leave the field out. -/
def isAbsentFromFiles (field : FieldTraits) : Bool := field.cacheOnly || field.unused

/-- The byte order of the field in one of the layouts. -/
def orderIn (field : FieldTraits) (form : Form) : ByteOrder := field.order.getD form.order

/-- The field as a member of a struct. -/
def site (field : FieldTraits) (owner : String) : Site := ⟨owner, field.identifier⟩

end FieldTraits

namespace ClassifiedField

/-- The bytes that the field takes. -/
def size (field : ClassifiedField) : Nat := field.kind.size

/-- Whether the field is padding. -/
def isPadding (field : ClassifiedField) : Bool := field.kind.isPadding

end ClassifiedField

namespace ClassifiedStruct

/-- The fields that are members of a value. -/
def members (s : ClassifiedStruct) : List ClassifiedField := s.fields.filter (!·.isPadding)

/-- The arrays with their elements. -/
def arrays (s : ClassifiedStruct) : List (ClassifiedField × String) :=
  s.fields.filterMap fun field =>
    match field.kind with
    | .reflexive element .. => some (field, element)
    | _ => none

/-- The field with an identifier. -/
def field? (s : ClassifiedStruct) (identifier : String) : Option ClassifiedField :=
  s.fields.find? (·.identifier = identifier)

/-- The warning that the declared size is not that of the fields. -/
def sizeWarning? (s : ClassifiedStruct) : Option String :=
  if s.computedSize = s.size then none
  else some
    s!"{s.name} declares {Text.hex s.size} bytes but its fields add up to {Text.hex s.computedSize}"

end ClassifiedStruct

namespace ClassifiedSchema

/-- The struct of a name. -/
def struct? (schema : ClassifiedSchema) (name : String) : Option ClassifiedStruct :=
  schema.structs.find? (·.name = name)

/-- The enum of a name. -/
def enum? (schema : ClassifiedSchema) (name : String) : Option ResolvedEnum :=
  schema.enums.find? (·.name = name)

/-- The bitfield of a name. -/
def bitfield? (schema : ClassifiedSchema) (name : String) : Option ResolvedBitfield :=
  schema.bitfields.find? (·.name = name)

end ClassifiedSchema

namespace Classify

/-- One default for every component, or as many as there are components. -/
def expandDefault (values : List Binary64) (expected : Nat) : Option (List Binary64) :=
  match values with
  | [] => some []
  | [value] => some (List.replicate expected value)
  | values => if values.length = expected then some values else none

/-- The array that an index of the given struct points into. -/
def indexTarget (schema : SchemaSet) (owner : String) (field : ResolvedField) :
    Except SchemaError (Option IndexTarget) :=
  match field.record.struct, field.record.reflexive with
  | some target, some reflexive => do
    let unresolved := SchemaError.unresolvedIndex owner field.identifier target reflexive
    if (schema.struct? target).isNone then throw unresolved
    let identifier := Names.memberName reflexive
    let chain ← schema.lineage target
    match (chain.flatMap (·.fields)).find? fun f =>
        decide (f.record.typeName = reflexiveType) &&
          (f.displayName == reflexive || f.identifier == identifier) with
    | none => throw unresolved
    | some found =>
      return some
        { struct := target, member := found.identifier, tags := schema.descendantsOf target }
  | _, _ => return none

/-- A limit on the number of elements: a number of the field, else the one that the element
declares. -/
def elementLimit (ofField : Option Binary64) (declared : Option Nat) : Option Nat :=
  match ofField with
  | some value => some (Primitive.u32.saturate value).toNat
  | none => declared

/-- The greatest number of elements when nothing limits it. -/
def unlimited : Nat := UInt32.size - 1

/-- Fails with a fault of a field when a condition holds. -/
def failWhen (condition : Bool) (error : SchemaError) : Except SchemaError Unit :=
  if condition then .error error else .ok ()

/-- The kind of a field with one of the types that are built in and not numeric. -/
def builtinKind (schema : SchemaSet) (owner : String) (field : ResolvedField) :
    Except SchemaError FieldKind := do
  let record := field.record
  let name := field.identifier
  match record.typeName with
  | "pad" => return .padding (record.size.getD 0)
  | "TagDependency" =>
    match field.classes.find? fun c => (ClassTable.byName? c).isNone with
    | some unknown => throw (.unknownClass owner name unknown)
    | none => return .dependency field.classes record.nonNull
  | "TagReflexive" =>
    let some element := record.struct
      | throw (.invalidField owner name .noElement)
    let definition := schema.struct? element
    failWhen (definition.isNone && !unorderedLeaves.contains element)
      (.unknownStruct owner name element)
    return .reflexive element
      ((elementLimit record.minimum (definition.bind (·.minimum))).getD 0)
      ((elementLimit record.maximum (definition.bind (·.maximum))).getD unlimited)
      record.stockMaximum
  | "TagDataOffset" =>
    match record.externalFile, record.fileOffset with
    | some file, _ =>
      match DataSource.ofFile? file with
      | some source => return .blob (.external source)
      | none => throw (.invalidField owner name (.unknownDataFile file))
    | none, true => return .blob .fileOffset
    | none, false => return .blob .pointer
  | "Index" => return .index (← indexTarget schema owner field)
  | "TagID" => return .tagId
  | "TagString" => return .tagString
  | "TagFourCC" => return .fourCC
  | other => throw (.unknownType owner name other)

/-- The kind of a field of a struct, or of an ancestor of that struct. -/
def fieldKind (schema : SchemaSet) (owner : String) (field : ResolvedField) :
    Except SchemaError FieldKind := do
  let record := field.record
  let invalid (fault : FieldFault) : SchemaError := .invalidField owner field.identifier fault
  failWhen (record.count == some 0) (invalid .zeroCount)
  let count := if record.count = some 1 then none else record.count
  let default := (record.default.map DefaultValue.values).getD []
  let number := NumberKind.ofTypeName? record.typeName
  let math := MathType.ofName? record.typeName
  failWhen ((record.minimum.isSome || record.maximum.isSome) && number.isNone &&
    record.typeName != reflexiveType) (invalid .misplacedLimits)
  failWhen (record.bounds && number.isNone) (invalid .misplacedBounds)
  failWhen (count.isSome && number.isNone && math.isNone) (invalid .misplacedCount)
  failWhen (record.normalize && !math.any (·.normalizable)) (invalid .misplacedNormalize)
  failWhen (!default.isEmpty && number.isNone && math.isNone) (invalid .misplacedDefault)
  match number, math with
  | some number, _ =>
    failWhen (record.bounds && count.isSome) (invalid .countedBounds)
    let expected := if record.bounds then 2 else count.getD 1
    let some default := expandDefault default expected
      | throw (invalid (.defaultCount expected))
    return .scalar number count record.bounds record.minimum record.maximum default
      record.defaultSign
  | none, some math =>
    failWhen (count.isSome && !default.isEmpty) (invalid .countedDefault)
    let some default := expandDefault default math.count
      | throw (invalid (.defaultCount math.count))
    return .compound math count record.normalize default record.defaultSign
  | none, none =>
    match schema.enum? record.typeName, schema.bitfield? record.typeName with
    | some e, _ => return .enum e.name e.width record.shiftedByOne
    | none, some b => return .bitfield b.name b.width
    | none, none => builtinKind schema owner field

/-- Whether a field of some kind can title a struct. -/
def canTitle : FieldKind → Bool
  | .tagString | .dependency .. | .enum .. => true
  | _ => false

/-- The identifier of the field that titles a struct, by its display name or its identifier. -/
def titleField (owner title : String) (fields : List ClassifiedField) : Except SchemaError String :=
  let identifier := Names.memberName title
  match fields.find? fun f => f.displayName == title || f.identifier == identifier with
  | none => .error (.invalidField owner title .unknownTitle)
  | some field =>
    if canTitle field.kind then .ok field.identifier
    else .error (.invalidField owner field.identifier .unfitTitle)

/-- The fields of a struct so far, with the offset after them. -/
structure Progress where
  fields : List ClassifiedField := []
  offset : Nat := 0
  title : Option String := none

/-- One more field. -/
def addField (schema : SchemaSet) (owner : String) (inherited : Bool) (progress : Progress)
    (field : ResolvedField) : Except SchemaError Progress := do
  let kind ← fieldKind schema owner field
  let isPadding := field.record.isPadding
  failWhen (!isPadding && progress.fields.any (·.identifier = field.identifier))
    (.invalidField owner field.identifier .nameOfAncestor)
  let record := field.record
  let classified : ClassifiedField :=
    { displayName := field.displayName
      identifier := if isPadding then "_padding_" ++ Text.hex progress.offset else field.identifier
      offset := progress.offset
      order := record.order
      kind
      inherited
      cacheOnly := record.cacheOnly
      unused := record.unused
      hidden := record.hidden
      readOnly := field.readOnly
      volatile := record.volatile
      comment := record.comment
      unit := record.unit }
  return { progress with
    fields := progress.fields ++ [classified], offset := Size.add progress.offset kind.size }

/-- The fields of one more struct of the chain of inheritance, and its title if it declares one. -/
def addAncestor (schema : SchemaSet) (owner : String) (progress : Progress)
    (ancestor : ResolvedStruct) : Except SchemaError Progress := do
  let progress ← ancestor.fields.foldlM
    (addField schema owner (decide (ancestor.name ≠ owner))) progress
  match ancestor.title with
  | none => return progress
  | some title =>
    return { progress with title := some (← titleField ancestor.name title progress.fields) }

/-- A struct. -/
def struct (schema : SchemaSet) (s : ResolvedStruct) : Except SchemaError ClassifiedStruct := do
  let chain ← schema.lineage s.name
  let progress ← chain.foldlM (addAncestor schema s.name) {}
  return { name := s.name, group := s.group, inherits := s.inherits, fields := progress.fields
           size := s.size, computedSize := progress.offset, title := progress.title }

end Classify

/-- The schema with its structs classified in the given order. Names that are not defined are passed
over. -/
def classify (schema : SchemaSet) (order : List String) : Except SchemaError ClassifiedSchema := do
  let structs ← (order.filterMap schema.struct?).mapM (Classify.struct schema)
  return { enums := schema.enums, bitfields := schema.bitfields, structs }

end TagSchema
