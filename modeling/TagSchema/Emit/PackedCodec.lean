import TagSchema.Emit.Snippet
import TagSchema.Emit.Writer

/-!
# Emitted packed codecs

The code that reads a struct out of a bundle, and the code that builds it into one. Building checks
the members first, then compiles whatever is stored behind handles, and writes the layout last.
-/

namespace TagSchema.Emit.PackedCodec

/-- The expression that restores a member from its stored form. -/
def memberValue (s : ClassifiedStruct) (field : ClassifiedField) : String :=
  let stored := "l." ++ field.identifier
  let site := siteArguments s field
  match field.kind with
  | .bitfield name _ => s!"{name}({stored}.get() & {name}::MASK)"
  | .dependency classes _ =>
    s!"read_packed_dependency(source, &{stored}, {defaultClass classes}, {site})?"
  | .reflexive element .. =>
    s!"read_packed_array(&{stored}, {Form.packed.layoutName element}::SIZE, {site}, " ++
      s!"|at| {element}::parse_packed_data(source, Some(at)))?"
  | .blob selector => s!"read_packed_blob(source, &{stored}, {blobSelector selector}, {site})?"
  | _ => (valueFromLayout field stored).getD "Default::default()"

/-- The reader of a struct. -/
def parser (s : ClassifiedStruct) : List Step :=
  let layout := Form.packed.layoutName s.name
  method ("pub fn parse_packed_data(source: &dyn PackedSource, pointer: Option<u32>)" ++
      " -> TagResult<Self>") (
    braces "let bytes = match pointer"
      [.line s!"Some(pointer) => source.struct_bytes(pointer, {layout}::SIZE)?,",
        .line s!"None => source.base_struct({layout}::SIZE)?,"] ";" ++
    [.line s!"let l = {layout}::read(bytes)?;"] ++
    braces "Ok(Self"
      (s.members.map fun field => .line s!"{field.identifier}: {memberValue s field},") ")")

/-- The statements that check a member before it is written. -/
def checks (s : ClassifiedStruct) (field : ClassifiedField) : List Step :=
  let site := siteArguments s field
  let value := "self." ++ field.identifier
  match field.kind with
  | .scalar _ count bounds minimum maximum .. =>
    let check (value : String) : Step :=
      .line (s!"check_range(workload, tag_index, f64::from({value}), {floatOption minimum}, " ++
        s!"{floatOption maximum}, {site})?;")
    if minimum.isNone && maximum.isNone then []
    else if bounds then [check (value ++ ".from"), check (value ++ ".to")]
    else if count.isSome then braces s!"for value in {value}" [check "value"] ""
    else [check value]
  | .compound _ count true .. =>
    let check (value : String) : Step :=
      .line s!"check_normal(workload, tag_index, {value}, {site})?;"
    if count.isSome then braces s!"for value in &{value}" [check "value"] ""
    else [check ("&" ++ value)]
  | .enum type _ shiftedByOne =>
    let raw := s!"u32::from({value}.0)" ++ if shiftedByOne then ".wrapping_add(1)" else ""
    [.line s!"check_enum(workload, tag_index, {raw}, {type}::COUNT, {type}::EXCLUDED, {site})?;"]
  | .index (some target) =>
    [.line (s!"check_index(workload, tag_index, &stack, {value}, {structTags target.tags}, " ++
      s!"{stringLiteral target.member}, {site})?;")]
  | _ => []

/-- Whether a struct has an index with a target. -/
def hasIndex (s : ClassifiedStruct) : Bool :=
  s.members.any fun field =>
    match field.kind with
    | .index (some _) => true
    | _ => false

/-- The statements that build what a member stores behind its handle. -/
def handle (s : ClassifiedStruct) (field : ClassifiedField) : List Step :=
  let name := field.identifier
  let position := s!"offset + {Text.hex field.offset}"
  match field.kind with
  | .dependency classes nonNull =>
    .blank :: longCall s!"let handle_{name} = compile_dependency"
      ["workload", "tag_index", "struct_index", position, s!"&self.{name}", classList classes,
        toString nonNull, stringLiteral s.name, stringLiteral name] "?;"
  | .reflexive element minimum maximum stockMaximum =>
    let stock := (stockMaximum.map fun n => s!"Some({n})").getD "None"
    .blank ::
    .line (s!"check_array_count(workload, tag_index, self.{name}.len(), {minimum}, {maximum}, " ++
      s!"{stock}, {siteArguments s field})?;") ::
    longCall s!"let handle_{name} = compile_array"
      ["workload", "struct_index", position, s!"&self.{name}",
        s!"{Form.packed.layoutName element}::SIZE", stringLiteral s.name, stringLiteral name,
        "|workload, element, array, at| " ++
          "element.compile(workload, tag_index, array, at, &mut stack)"]
      "?;"
  | .blob selector =>
    [.blank,
      .line (s!"let handle_{name} = compile_blob(workload, struct_index, {position}, " ++
        s!"&self.{name}, {blobSelector selector})?;")]
  | _ => []

/-- The expression that stores a field. -/
def storedValue (field : ClassifiedField) : String :=
  match field.kind with
  | .dependency .. | .reflexive .. | .blob _ => "handle_" ++ field.identifier
  | _ => (valueToLayout field .packed ("self." ++ field.identifier)).getD "Default::default()"

/-- The builder of a struct at a place of a workload. -/
def compiler (s : ClassifiedStruct) : List Step :=
  let layout := Form.packed.layoutName s.name
  let checks := s.members.flatMap (checks s)
  longMethod "pub fn compile"
    ["&self", "workload: &mut dyn BuildWorkload", "tag_index: usize", "struct_index: usize",
      "offset: usize", "stack: &mut ContainmentStack"] "TagResult<()>" (
    [.line (enterFrame s (hasIndex s))] ++
    (if checks.isEmpty then []
      else
        [.blank, .line "let checks = !workload.options().disable_error_checking;"] ++
        braces "if checks" checks "") ++
    s.fields.flatMap (handle s) ++
    [.blank] ++
    (if s.fields.isEmpty then [.line (layout ++ " \x7b\x7d")]
      else
        braces layout (s.fields.map fun field => .line s!"{field.identifier}: {storedValue field},")
          "") ++
    [.line (s!".write(workload.structs_mut().bytes_mut(struct_index, offset, {layout}::SIZE)?)")])

/-- The builder of a struct as the base struct of a tag. -/
def tagCompiler (s : ClassifiedStruct) : List Step :=
  .line "/// Compile this struct as the base struct of a tag, returning its struct index." ::
  method ("pub fn compile_tag(&self, workload: &mut dyn BuildWorkload, tag_index: usize)" ++
      " -> TagResult<usize>")
    [.line (s!"let struct_index = workload.structs_mut()" ++
        s!".new_struct({Form.packed.layoutName s.name}::SIZE);"),
      .line "let mut stack = ContainmentStack::new();",
      .line "self.compile(workload, tag_index, struct_index, 0, &mut stack)?;",
      .line "Ok(struct_index)"]

/-- The packed codec of a struct. -/
def structBlock (s : ClassifiedStruct) : List Step :=
  .blank ::
  braces s!"impl {s.name}" (parser s ++ .blank :: compiler s ++ .blank :: tagCompiler s) ""

/-- The packed codecs of a schema. -/
def steps (schema : ClassifiedSchema) (options : Options) : List Step :=
  header options.runtimeCrate true ++ schema.structs.flatMap structBlock

end TagSchema.Emit.PackedCodec
