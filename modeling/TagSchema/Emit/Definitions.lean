import TagSchema.Emit.Snippet
import TagSchema.Emit.Writer

/-!
# Emitted definitions

The types of the emitted code: enums, bitfields, structs, and both layouts of every struct with the
conversions between them.
-/

namespace TagSchema.Emit.Definitions

/-- A mask or flag in hexadecimal, with as many digits as its width has. -/
def maskLiteral (value width : Nat) : String := Text.hexPadded (width / 4) value

/-- A list of names as a literal. -/
def namesLiteral (names : List String) : String := s!"&[{commaSeparated (names.map stringLiteral)}]"

/-- The type of an enum or a bitfield, up to its implementation. -/
def wrapperType (name : String) (width : Nat) (description : Option String) : List Step :=
  [.doc description,
    .line "#[derive(Clone, Copy, Debug, Default, PartialEq, Eq, Hash)]",
    .line s!"pub struct {name}(pub {storageType width});",
    .blank]

/-- An enum. -/
def enum (e : ResolvedEnum) : List Step :=
  wrapperType e.name e.width e.description ++
  braces s!"impl {e.name}" (
    e.options.flatMap (fun option =>
      [.doc option.description,
        .line s!"pub const {option.constant}: Self = Self({option.value});"]) ++
    [.line s!"pub const COUNT: u32 = {e.options.length};",
      .line s!"pub const NAMES: &'static [&'static str] = {namesLiteral e.names};",
      .line ("pub const EXCLUDED: &'static [u32] = " ++
        s!"&[{commaSeparated (e.excludedValues.map toString)}];"),
      .blank] ++
    method "pub fn is_valid(self) -> bool"
      [.line "let value = u32::from(self.0);",
        .line "value < Self::COUNT && !Self::EXCLUDED.contains(&value)"] ++
    [.blank] ++
    method "pub fn name(self) -> Option<&'static str>"
      [.line "Self::NAMES.get(self.0 as usize).copied()"] ++
    [.blank] ++
    method "pub fn from_name(name: &str) -> Option<Self>"
      [.line ("Self::NAMES.iter().position(|n| n.eq_ignore_ascii_case(name))" ++
        s!".map(|i| Self(i as {storageType e.width}))")]) ""

/-- A bitfield. -/
def bitfield (b : ResolvedBitfield) : List Step :=
  let storage := storageType b.width
  wrapperType b.name b.width b.description ++
  braces s!"impl {b.name}" (
    b.flags.flatMap (fun flag =>
      [.doc flag.description,
        .line s!"pub const {flag.constant}: Self = Self({maskLiteral flag.bit.toNat b.width});"]) ++
    [.line s!"pub const MASK: {storage} = {maskLiteral b.fullMask b.width};",
      .line s!"pub const CACHE_ONLY_MASK: {storage} = {maskLiteral b.cacheOnlyMask b.width};",
      .line s!"pub const READ_ONLY_MASK: {storage} = {maskLiteral b.readOnlyMask b.width};",
      .line s!"pub const NAMES: &'static [&'static str] = {namesLiteral b.names};",
      .blank] ++
    method "pub fn contains(self, flag: Self) -> bool" [.line "self.0 & flag.0 == flag.0"] ++
    [.blank] ++
    method "pub fn set(&mut self, flag: Self, on: bool)"
      [.openBlock "if on \x7b",
        .line "self.0 |= flag.0;",
        .reopen "\x7d else \x7b",
        .line "self.0 &= !flag.0;",
        .closeBlock "\x7d"]) ""

/-- A struct without its layouts. -/
def struct (s : ClassifiedStruct) : List Step :=
  [.line "#[derive(Clone, Debug, Default, PartialEq)]"] ++
  braces s!"pub struct {s.name}" (
    s.members.flatMap fun field =>
      .doc field.comment ::
        match editableType field with
        | some type => [.line s!"pub {field.identifier}: {type},"]
        | none => []) "" ++
  [.blank] ++
  braces s!"impl {s.name}"
    [.line s!"pub const TAG: StructTag = StructTag({stringLiteral s.name});"] ""

/-- The size, decoder and encoder of a layout with fields. -/
def layoutMethods (fields : List ClassifiedField) (types : List String) : List Step :=
  let sizes := types.map fun type => s!"<{type} as Layout>::SIZE"
  [.line ("const SIZE: usize = " ++ String.intercalate " + " sizes ++ ";"), .blank] ++
  method "fn decode(bytes: &[u8]) -> Self" (
    .line "let mut r = LayoutReader::new(bytes);" ::
    braces "Self" (fields.map fun field => .line s!"{field.identifier}: r.next(),") "") ++
  [.blank] ++
  method "fn encode(&self, out: &mut [u8])" (
    .line "let mut w = LayoutWriter::new(out);" ::
    fields.map fun field => .line s!"w.put(&self.{field.identifier});")

/-- The size, decoder and encoder of a layout without fields. -/
def emptyLayoutMethods : List Step :=
  [.line "const SIZE: usize = 0;", .blank] ++
  method "fn decode(_bytes: &[u8]) -> Self" [.line "Self \x7b\x7d"] ++
  [.blank, .line "fn encode(&self, _out: &mut [u8]) \x7b\x7d"]

/-- One of the layouts of a struct. -/
def layout (s : ClassifiedStruct) (form : Form) : List Step :=
  let name := form.layoutName s.name
  let types := s.fields.map (layoutType · form)
  [.line "#[repr(C)]", .line "#[derive(Clone, Copy, Debug, PartialEq)]"] ++
  braces s!"pub struct {name}"
    ((s.fields.zip types).map fun (field, type) => .line s!"pub {field.identifier}: {type},") "" ++
  [.blank] ++
  braces s!"impl Layout for {name}"
    (if s.fields.isEmpty then emptyLayoutMethods else layoutMethods s.fields types) "" ++
  [.blank,
    .line s!"const _: () = assert!(<{name} as Layout>::SIZE == {Text.hex s.size});",
    .line s!"const _: () = assert!(std::mem::size_of::<{name}>() == {Text.hex s.size});"]

/-- The conversion from one layout of a struct to the other. -/
def transpose (s : ClassifiedStruct) (source target : Form) : List Step :=
  let sourceName := source.layoutName s.name
  braces s!"impl From<&{sourceName}> for {target.layoutName s.name}" (
    braces s!"fn from(l: &{sourceName}) -> Self" (
      if s.fields.isEmpty then [.line "let _ = l;", .line "Self \x7b\x7d"]
      else
        braces "Self"
          (s.fields.map fun field =>
            .line s!"{field.identifier}: l.{field.identifier}.transpose(),")
          "") "") ""

/-- A struct with its layouts. -/
def structBlock (s : ClassifiedStruct) : List Step :=
  .blank :: struct s ++
  .blank :: layout s .file ++
  .blank :: layout s .packed ++
  .blank :: transpose s .file .packed ++
  .blank :: transpose s .packed .file

/-- The definitions of a schema. -/
def steps (schema : ClassifiedSchema) (options : Options) : List Step :=
  header options.runtimeCrate false ++
  schema.enums.flatMap (fun e => .blank :: enum e) ++
  schema.bitfields.flatMap (fun b => .blank :: bitfield b) ++
  schema.structs.flatMap structBlock

end TagSchema.Emit.Definitions
