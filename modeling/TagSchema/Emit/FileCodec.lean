import TagSchema.Emit.Snippet
import TagSchema.Emit.Writer

/-!
# Emitted file codecs

The code that reads and writes tag files. The fixed part of a struct comes first, and the variable
data of its members follows in field order.
-/

namespace TagSchema.Emit.FileCodec

/-- The expression that restores a member from its stored form. The elements of an array that files
do not keep are read and dropped. -/
def memberValue (s : ClassifiedStruct) (field : ClassifiedField) : String :=
  let stored := "l." ++ field.identifier
  let site := siteArguments s field
  match field.kind with
  | .dependency classes _ =>
    s!"read_file_dependency(cursor, &{stored}, {defaultClass classes}, {site})?"
  | .reflexive element .. =>
    let read :=
      s!"read_file_array(cursor, &{stored}, {Form.file.layoutName element}::SIZE, {site}, " ++
        s!"|header, cursor| {element}::parse_file_data_at(header, cursor, postprocess))?"
    if field.cacheOnly then "\x7b " ++ read ++ "; Vec::new() \x7d" else read
  | .blob _ => s!"read_file_blob(cursor, &{stored}, {site})?"
  | .bitfield name _ => s!"{name}({stored}.get() & {name}::MASK & !{name}::CACHE_ONLY_MASK)"
  | _ => (valueFromLayout field stored).getD "Default::default()"

/-- The statements that give a member its default when it is unset. -/
def defaults (field : ClassifiedField) : List Step :=
  let name := field.identifier
  let test (sign float : Bool) : String :=
    (if sign then "<= " else "== ") ++ numberLiteral .zero float
  match field.kind with
  | .scalar number count bounds _ _ default sign =>
    let float := number.primitive.isFloat
    let test := test sign float
    let literals := default.map (numberLiteral · float)
    match literals with
    | [] => []
    | first :: _ =>
      if bounds then
        let unset := s!"r.{name}.from {test} && r.{name}.to {test}"
        [.line (s!"if {unset} \x7b r.{name} = Bounds::new({commaSeparated literals}); \x7d")]
      else if count.isSome then
        literals.mapIdx fun position literal =>
          .line s!"if r.{name}[{position}] {test} \x7b r.{name}[{position}] = {literal}; \x7d"
      else [.line s!"if r.{name} {test} \x7b r.{name} = {first}; \x7d"]
  | .compound math none _ default sign =>
    let float := math.component.isFloat
    let literals := default.map (numberLiteral · float)
    if literals.isEmpty then []
    else
      [.line (s!"if r.{name}.all(|c| c {test sign float}) " ++
        s!"\x7b r.{name} = {math.name}::from_array([{commaSeparated literals}]); \x7d")]
  | _ => []

/-- The readers of a struct. -/
def parsers (s : ClassifiedStruct) : List Step :=
  let layout := Form.file.layoutName s.name
  let defaults := s.members.flatMap defaults
  .line "/// Read and validate a whole tag file, header included." ::
  method ("pub fn parse_file(data: &[u8], class: Option<TagClass>, postprocess: bool)" ++
      " -> TagResult<Self>")
    [.line "let body = TagFileHeader::validate(data, class)?;",
      .line "let mut cursor = FileCursor::new(body);",
      .line "let tag = Self::parse_file_data(&mut cursor, postprocess)?;",
      .line "cursor.finish()?;",
      .line "Ok(tag)"] ++
  .blank ::
  method ("pub fn parse_file_data<'a>(cursor: &mut FileCursor<'a>, postprocess: bool)" ++
      " -> TagResult<Self>")
    [.line s!"let header = cursor.take({layout}::SIZE, {stringLiteral s.name})?;",
      .line "Self::parse_file_data_at(header, cursor, postprocess)"] ++
  .blank ::
  longMethod "pub fn parse_file_data_at<'a>"
    ["header: &'a [u8]", "cursor: &mut FileCursor<'a>", "postprocess: bool"] "TagResult<Self>" (
    [.line s!"let l = {layout}::read(header)?;"] ++
    braces (if defaults.isEmpty then "let r = Self" else "let mut r = Self")
      (s.members.map fun field => .line s!"{field.identifier}: {memberValue s field},") ";" ++
    (if defaults.isEmpty then [] else braces "if postprocess" defaults "") ++
    [.line "Ok(r)"])

/-- Whether files leave a field out. -/
def isHidden (options : Options) (field : ClassifiedField) : Bool :=
  !options.extractHidden && field.isAbsentFromFiles

/-- The expression that stores a field. -/
def storedValue (options : Options) (field : ClassifiedField) : String :=
  let name := field.identifier
  let plain := (valueToLayout field .file ("self." ++ name)).getD "Layout::zeroed()"
  if isHidden options field then "Layout::zeroed()"
  else
    match field.kind with
    | .dependency classes _ => s!"file_dependency_header(&self.{name}, {defaultClass classes})?"
    | .reflexive .. => s!"file_array_header(self.{name}.len())?"
    | .blob _ => s!"file_blob_header(self.{name}.len())?"
    | .bitfield type _ =>
      if options.extractHidden then plain
      else s!"{word field .file}::new(self.{name}.0 & !{type}::CACHE_ONLY_MASK)"
    | _ => plain

/-- The statement that appends the variable data of a field. -/
def variableData (options : Options) (s : ClassifiedStruct) (field : ClassifiedField) : List Step :=
  let name := field.identifier
  if isHidden options field then []
  else
    match field.kind with
    | .dependency .. => [.line s!"write_file_dependency(out, &self.{name});"]
    | .reflexive element .. =>
      [.line (s!"write_file_array(out, &self.{name}, {Form.file.layoutName element}::SIZE, " ++
        s!"{siteArguments s field}, |e, out, at| e.write_file_data_at(out, at))?;")]
    | .blob _ => [.line s!"out.extend_from_slice(&self.{name});"]
    | _ => []

/-- The writers of a struct. -/
def writers (options : Options) (s : ClassifiedStruct) : List Step :=
  let layout := Form.file.layoutName s.name
  method "pub fn generate_file(&self, class: TagClass) -> TagResult<Vec<u8>>"
    [.line "Ok(TagFileHeader::wrap(class, &self.generate_file_data()?))"] ++
  .blank ::
  .line "/// File data without a header." ::
  method "pub fn generate_file_data(&self) -> TagResult<Vec<u8>>"
    [.line s!"let mut out = vec![0u8; {layout}::SIZE];",
      .line "self.write_file_data_at(&mut out, 0)?;",
      .line "Ok(out)"] ++
  .blank ::
  .line "/// Write the fixed struct at `at` and append its variable data to `out`." ::
  method "pub fn write_file_data_at(&self, out: &mut Vec<u8>, at: usize) -> TagResult<()>" (
    (if s.fields.isEmpty then [.line ("let l = " ++ layout ++ " \x7b\x7d;")]
      else
        braces ("let l = " ++ layout)
          (s.fields.map fun field =>
            .line s!"{field.identifier}: {storedValue options field},") ";") ++
    [.line "write_fixed(out, at, &l)?;"] ++
    s.fields.flatMap (variableData options s) ++
    [.line "Ok(())"])

/-- The file codec of a struct. -/
def structBlock (options : Options) (s : ClassifiedStruct) : List Step :=
  .blank :: braces s!"impl {s.name}" (parsers s ++ .blank :: writers options s) ""

/-- The file codecs of a schema. -/
def steps (schema : ClassifiedSchema) (options : Options) : List Step :=
  header options.runtimeCrate true ++ schema.structs.flatMap (structBlock options)

end TagSchema.Emit.FileCodec
