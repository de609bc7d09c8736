import TagSchema.Emit.Snippet
import TagSchema.Emit.Writer
import TagSchema.Schema.Names

/-!
# Emitted reflection

The code that lets a generic editor list the fields of a value and reach them. Fields that are
hidden, kept from files, unused, or stored in the wrong byte order are not shown.
-/

namespace TagSchema.Emit.Reflection

/-- The accessors of an enum or a bitfield: a trait, and the names of its three methods. -/
def wordAccess (trait name : String) (width : Nat) (getter setter argument names : String) :
    List Step :=
  .blank :: braces s!"impl {trait} for {name}" (
    method s!"fn {getter}(&self) -> u32" [.line "u32::from(self.0)"] ++
    .blank ::
    method s!"fn {setter}(&mut self, {argument}: u32)"
      [.line s!"self.0 = {argument} as {storageType width};"] ++
    .blank ::
    method s!"fn {names}(&self) -> &'static [&'static str]" [.line "Self::NAMES"]) ""

/-- The accessors of an enum. -/
def enumBlock (e : ResolvedEnum) : List Step :=
  wordAccess "EnumValue" e.name e.width "value" "set_value" "value" "options"

/-- The accessors of a bitfield. -/
def bitfieldBlock (b : ResolvedBitfield) : List Step :=
  wordAccess "BitfieldValue" b.name b.width "bits" "set_bits" "bits" "flags"

/-- The descriptor of a number. -/
def numberDescriptor (field : ClassifiedField) (type : String) (count : Nat) (bounds : Bool)
    (minimum maximum : Option Binary64) : String :=
  s!"DescriptorKind::Number \x7b number_type: NumberType::{type}, count: {count}, " ++
    s!"bounds: {bounds}, volatile: {field.volatile}, minimum: {floatOption minimum}, " ++
    s!"maximum: {floatOption maximum} \x7d"

/-- The descriptor of a field and the way in which an editor gets at its value, for the kinds that
have them. -/
def descriptor (field : ClassifiedField) : Option (String × String) :=
  match field.kind with
  | .scalar number count bounds minimum maximum .. =>
    let count := if bounds then 2 else count.getD 1
    some (numberDescriptor field number.name count bounds minimum maximum, "Number")
  | .compound math count .. =>
    let type := if math.component.isFloat then "Float" else "Int16"
    some (numberDescriptor field type (math.count * count.getD 1) false none none, "Number")
  | .index _ => some (numberDescriptor field "Index" 1 false none none, "Number")
  | .fourCC => some (numberDescriptor field "FourCC" 1 false none none, "Number")
  | .enum name .. =>
    some ("DescriptorKind::Enum \x7b " ++
      s!"options: {name}::NAMES, excluded: {name}::EXCLUDED" ++ " \x7d", "Enum")
  | .bitfield name _ =>
    some (s!"DescriptorKind::Bitfield \x7b flags: {name}::NAMES, " ++
      s!"mask: ({name}::MASK & !{name}::CACHE_ONLY_MASK) as u32 \x7d", "Bitfield")
  | .dependency classes _ =>
    some ("DescriptorKind::Dependency \x7b classes: &[" ++
      commaSeparated (classes.map stringLiteral) ++ "] \x7d", "Dependency")
  | .reflexive element minimum maximum _ =>
    some (s!"DescriptorKind::Array \x7b element: {stringLiteral element}, " ++
      s!"minimum: {minimum}, maximum: {Text.hex maximum} \x7d", "Array")
  | .blob _ => some ("DescriptorKind::Blob", "Blob")
  | .tagString => some ("DescriptorKind::String", "String")
  | .tagId | .padding _ => none

/-- A field that an editor gets to see. -/
structure VisibleField where
  field : ClassifiedField
  descriptor : String
  access : String

/-- The fields of a struct that an editor gets to see. -/
def visibleFields (s : ClassifiedStruct) : List VisibleField :=
  s.fields.filterMap fun field =>
    if field.isVisible then
      (descriptor field).map fun (descriptor, access) => { field, descriptor, access }
    else none

/-- The name of the table of descriptors of a struct. -/
def tableName (s : ClassifiedStruct) : String := Names.constantPrefix s.name ++ "_FIELDS"

/-- The descriptors of a struct. -/
def table (s : ClassifiedStruct) : List Step :=
  let visible := visibleFields s
  block s!"pub static {tableName s}: [FieldDescriptor; {visible.length}] = ["
    (visible.flatMap fun v =>
      braces "FieldDescriptor"
        [.line s!"display_name: {stringLiteral v.field.displayName},",
          .line s!"identifier: {stringLiteral v.field.identifier},",
          .line s!"comment: {optionLiteral v.field.comment},",
          .line s!"unit: {optionLiteral v.field.unit},",
          .line s!"read_only: {v.field.readOnly},",
          .line s!"offset: {Text.hex v.field.offset},",
          .line s!"kind: {v.descriptor},"] ",") "];"

/-- The expression for the title of a value. -/
def titleExpression (field : ClassifiedField) : String :=
  let name := field.identifier
  match field.kind with
  | .tagString => s!"Some(self.{name}.as_str().into_owned())"
  | .dependency .. => s!"dependency_title(&self.{name})"
  | _ => s!"self.{name}.name().map(|n| n.to_string())"

/-- The accessors of a struct. -/
def accessors (s : ClassifiedStruct) : List Step :=
  let values :=
    match visibleFields s with
    | [] => [.line "Vec::new()"]
    | visible =>
      block "vec![" ((visible.mapIdx fun position v =>
        braces "FieldValue"
          [.line s!"descriptor: &{tableName s}[{position}],",
            .line s!"access: FieldAccess::{v.access}(&mut self.{v.field.identifier}),"]
          ",").flatten) "]"
  braces s!"impl TagStruct for {s.name}" (
    method "fn struct_name(&self) -> &'static str" [.line (stringLiteral s.name)] ++
    (match s.title.bind s.field? with
      | some title =>
        .blank :: method "fn title(&self) -> Option<String>" [.line (titleExpression title)]
      | none => []) ++
    .blank ::
    method "fn values(&mut self) -> Vec<FieldValue<'_>>" values) ""

/-- The reflection of a struct. -/
def structBlock (s : ClassifiedStruct) : List Step :=
  .blank :: table s ++
  .blank :: braces s!"impl {s.name}"
    (method "pub fn fields() -> &'static [FieldDescriptor]" [.line s!"&{tableName s}"]) "" ++
  .blank :: accessors s

/-- The reflection of a schema. -/
def steps (schema : ClassifiedSchema) (options : Options) : List Step :=
  header options.runtimeCrate true ++
  schema.enums.flatMap enumBlock ++
  schema.bitfields.flatMap bitfieldBlock ++
  schema.structs.flatMap structBlock

end TagSchema.Emit.Reflection
