import TagSchema.Schema.Analysis
import TagSchema.Schema.Record

/-!
# Analyses as documents

The resolved and the classified definitions, written out with every property under its own key.
-/

namespace TagSchema

/-! ### Resolved definitions -/

/-- A resolved option as a document. -/
def ResolvedOption.toNode (option : ResolvedOption) : Node := .record [
  ("name", .text option.name),
  ("display_name", .text option.displayName),
  ("constant", .text option.constant),
  ("value", .ofNat option.value),
  ("description", .ofOption .text option.description),
  ("excluded", .bool option.excluded),
  ("cache_only", .bool option.cacheOnly),
  ("read_only", .bool option.readOnly)]

/-- A resolved enum as a document. -/
def ResolvedEnum.toNode (e : ResolvedEnum) : Node := .record [
  ("name", .text e.name),
  ("group", .text e.group),
  ("prefix", .text e.constantPrefix),
  ("width", .ofNat e.width),
  ("options", .ofList ResolvedOption.toNode e.options),
  ("description", .ofOption .text e.description)]

/-- A resolved bitfield as a document. -/
def ResolvedBitfield.toNode (b : ResolvedBitfield) : Node := .record [
  ("name", .text b.name),
  ("group", .text b.group),
  ("prefix", .text b.constantPrefix),
  ("width", .ofNat b.width),
  ("flags", .ofList ResolvedOption.toNode b.flags),
  ("declared_mask", .ofNat b.declaredMask),
  ("full_mask", .ofNat b.fullMask),
  ("cache_only_mask", .ofNat b.cacheOnlyMask),
  ("read_only_mask", .ofNat b.readOnlyMask),
  ("description", .ofOption .text b.description)]

/-- A resolved field as a document. -/
def ResolvedField.toNode (field : ResolvedField) : Node := .record [
  ("display_name", .text field.displayName),
  ("identifier", .text field.identifier),
  ("compound", .bool field.compound),
  ("classes", .ofList .text field.classes),
  ("read_only", .bool field.readOnly),
  ("record", field.record.toNode)]

/-- A resolved struct as a document. -/
def ResolvedStruct.toNode (s : ResolvedStruct) : Node := .record [
  ("name", .text s.name),
  ("group", .text s.group),
  ("inherits", .ofOption .text s.inherits),
  ("fields", .ofList ResolvedField.toNode s.fields),
  ("size", .ofNat s.size),
  ("title", .ofOption .text s.title),
  ("minimum", .ofOption .ofNat s.minimum),
  ("maximum", .ofOption .ofNat s.maximum),
  ("read_only", .bool s.readOnly),
  ("description", .ofOption .text s.description)]

/-- A schema as a document, with each definition under its name. -/
def SchemaSet.toNode (schema : SchemaSet) : Node := .record [
  ("enums", .record (schema.enums.map fun e => (e.name, e.toNode))),
  ("bitfields", .record (schema.bitfields.map fun b => (b.name, b.toNode))),
  ("structs", .record (schema.structs.map fun s => (s.name, s.toNode)))]

/-! ### Classified definitions -/

/-- A math type as a document. -/
def MathType.toNode (math : MathType) : Node := .record [
  ("name", .text math.name),
  ("component", .text math.component.name),
  ("components", .ofNat math.count),
  ("normalizable", .bool math.normalizable)]

/-- The way to a blob as a document. -/
def BlobSelector.toNode : BlobSelector → Node
  | .pointer => .text "Pointer"
  | .fileOffset => .text "FileOffset"
  | .external source => .record [("External", .text source.name)]

/-- The target of an index as a document. -/
def IndexTarget.toNode (target : IndexTarget) : Node := .record [
  ("struct_name", .text target.struct),
  ("member", .text target.member),
  ("tags", .ofList .text target.tags)]

/-- A kind as a document: its name, with its properties if it has any. -/
def FieldKind.toNode : FieldKind → Node
  | .scalar number count bounds minimum maximum default defaultSign =>
    .record [("Scalar", .record [
      ("number", .text number.name),
      ("count", .ofOption .ofNat count),
      ("bounds", .bool bounds),
      ("minimum", .ofOption .real minimum),
      ("maximum", .ofOption .real maximum),
      ("default", .ofList .real default),
      ("default_sign", .bool defaultSign)])]
  | .compound math count normalize default defaultSign =>
    .record [("Compound", .record [
      ("math", math.toNode),
      ("count", .ofOption .ofNat count),
      ("normalize", .bool normalize),
      ("default", .ofList .real default),
      ("default_sign", .bool defaultSign)])]
  | .enum name width shiftedByOne =>
    .record [("Enum", .record [
      ("name", .text name), ("width", .ofNat width), ("shifted_by_one", .bool shiftedByOne)])]
  | .bitfield name width =>
    .record [("Bitfield", .record [("name", .text name), ("width", .ofNat width)])]
  | .dependency classes nonNull =>
    .record [("Dependency", .record [
      ("classes", .ofList .text classes), ("non_null", .bool nonNull)])]
  | .reflexive element minimum maximum stockMaximum =>
    .record [("Reflexive", .record [
      ("element", .text element),
      ("minimum", .ofNat minimum),
      ("maximum", .ofNat maximum),
      ("stock_maximum", .ofOption .ofNat stockMaximum)])]
  | .blob selector => .record [("Blob", .record [("selector", selector.toNode)])]
  | .index target => .record [("Index", .record [("target", .ofOption IndexTarget.toNode target)])]
  | .tagId => .text "TagId"
  | .tagString => .text "TagString"
  | .fourCC => .text "FourCC"
  | .padding size => .record [("Padding", .record [("size", .ofNat size)])]

/-- The properties of a classified field. -/
def ClassifiedField.entries (field : ClassifiedField) : List (String × Node) := [
  ("display_name", .text field.displayName),
  ("identifier", .text field.identifier),
  ("offset", .ofNat field.offset),
  ("endian", .ofOption ByteOrder.toNode field.order),
  ("kind", field.kind.toNode),
  ("inherited", .bool field.inherited),
  ("cache_only", .bool field.cacheOnly),
  ("unused", .bool field.unused),
  ("hidden", .bool field.hidden),
  ("read_only", .bool field.readOnly),
  ("volatile", .bool field.volatile),
  ("comment", .ofOption .text field.comment),
  ("unit", .ofOption .text field.unit)]

/-- A classified struct as a document, given how its fields are written. -/
def ClassifiedStruct.toNode (writeField : ClassifiedField → Node) (s : ClassifiedStruct) : Node :=
  .record [
    ("name", .text s.name),
    ("group", .text s.group),
    ("inherits", .ofOption .text s.inherits),
    ("fields", .ofList writeField s.fields),
    ("size", .ofNat s.size),
    ("computed_size", .ofNat s.computedSize),
    ("title", .ofOption .text s.title)]

/-- A classified schema as a document. -/
def ClassifiedSchema.toNode (schema : ClassifiedSchema) : Node := .record [
  ("enums", .ofList ResolvedEnum.toNode schema.enums),
  ("bitfields", .ofList ResolvedBitfield.toNode schema.bitfields),
  ("structs", .ofList (ClassifiedStruct.toNode fun field => .record field.entries) schema.structs)]

/-- An analysis as a document. -/
def Analysis.toNode (analysis : Analysis) : Node := .record [
  ("emission_order", .ofList .text analysis.order),
  ("resolved", analysis.set.toNode),
  ("classified", analysis.schema.toNode)]

end TagSchema
