import TagSchema.Schema.Classify
import TagSchema.Tag.Class

/-!
# Snippets

Pieces of emitted code that several targets share: types, literals, and the conversions between a
member and its stored form.
-/

namespace TagSchema

/-- The name of one of the layouts of a struct. -/
def Form.layoutName (form : Form) (struct : String) : String :=
  match form with
  | .file => struct ++ "FileLayout"
  | .packed => struct ++ "PackedLayout"

namespace Emit

/-- A text as a literal. -/
def stringLiteral (text : String) : String := Text.quoted text

/-- An optional text as a literal. -/
def optionLiteral : Option String → String
  | some text => s!"Some({stringLiteral text})"
  | none => "None"

/-- A number as a literal of a floating-point or of a whole type. -/
def numberLiteral (value : Binary64) (float : Bool) : String :=
  if float then DecimalStyle.detailed.render64 value else toString (Primitive.i64.saturate value)

/-- An optional floating-point number as a literal. -/
def floatOption : Option Binary64 → String
  | some value => s!"Some({numberLiteral value true})"
  | none => "None"

/-- Words with commas between them. -/
def commaSeparated (words : List String) : String := String.intercalate ", " words

/-! ### Types -/

/-- The wrapper of words in a byte order. -/
def wordOf : ByteOrder → String
  | .big => "Be"
  | .little => "Le"

/-- The wrapper of the words of a field. -/
def word (field : ClassifiedField) (form : Form) : String := wordOf (field.orderIn form)

/-- The type that stores an enum or a bitfield. -/
def storageType (width : Nat) : String :=
  if width = 8 then "u8" else if width = 16 then "u16" else "u32"

/-- The type of a field in a layout. -/
def layoutType (field : ClassifiedField) (form : Form) : String :=
  let w := word field form
  match field.kind with
  | .scalar number count bounds .. =>
    let base := s!"{w}<{number.primitive.name}>"
    if bounds then s!"[{base}; 2]" else FieldKind.counted base count
  | .compound math count .. =>
    FieldKind.counted s!"[{w}<{math.component.name}>; {math.count}]" count
  | .enum _ width _ | .bitfield _ width => s!"{w}<{storageType width}>"
  | .dependency .. => s!"DependencyLayout<{w}<u32>>"
  | .reflexive .. => s!"ReflexiveLayout<{w}<u32>>"
  | .blob _ => s!"DataLayout<{w}<u32>>"
  | .index _ => s!"{w}<u16>"
  | .tagId | .fourCC => s!"{w}<u32>"
  | .tagString => "TagString"
  | .padding size => s!"Padding<{size}>"

/-- The type of a field in a value; padding has none. -/
def editableType (field : ClassifiedField) : Option String :=
  match field.kind with
  | .scalar number count bounds .. =>
    some (if bounds then s!"Bounds<{number.primitive.name}>"
      else FieldKind.counted number.primitive.name count)
  | .compound math count .. => some (FieldKind.counted math.name count)
  | .enum name .. | .bitfield name _ => some name
  | .dependency .. => some "Dependency"
  | .reflexive element .. => some s!"Vec<{element}>"
  | .blob _ => some "Vec<u8>"
  | .index _ => some "u16"
  | .tagId => some "TagId"
  | .tagString => some "TagString"
  | .fourCC => some "TagClass"
  | .padding _ => none

/-! ### Conversions -/

/-- The stored form of a value. Handles are built by the codecs. -/
def valueToLayout (field : ClassifiedField) (form : Form) (value : String) : Option String :=
  let w := word field form
  match field.kind with
  | .scalar _ count bounds .. =>
    some (if bounds then s!"{value}.to_words()"
      else if count.isSome then s!"{value}.map({w}::new)"
      else s!"{w}::new({value})")
  | .compound _ count .. =>
    some (if count.isSome then s!"{value}.map(|c| c.to_words())" else s!"{value}.to_words()")
  | .enum .. | .bitfield .. | .tagId | .fourCC => some s!"{w}::new({value}.0)"
  | .index _ => some s!"{w}::new({value})"
  | .tagString => some value
  | .padding _ => some "Padding::default()"
  | .dependency .. | .reflexive .. | .blob _ => none

/-- The value of a stored form. -/
def valueFromLayout (field : ClassifiedField) (stored : String) : Option String :=
  match field.kind with
  | .scalar _ count bounds .. =>
    some (if bounds then s!"Bounds::from_words(&{stored})"
      else if count.isSome then s!"{stored}.map(|w| w.get())"
      else s!"{stored}.get()")
  | .compound math count .. =>
    some (if count.isSome then s!"{stored}.map(|w| {math.name}::from_words(&w))"
      else s!"{math.name}::from_words(&{stored})")
  | .enum name .. | .bitfield name _ => some s!"{name}({stored}.get())"
  | .index _ => some s!"{stored}.get()"
  | .tagId => some "TagId::NULL"
  | .fourCC => some s!"TagClass({stored}.get())"
  | .tagString => some stored
  | .padding _ | .dependency .. | .reflexive .. | .blob _ => none

/-! ### Literals of the domain -/

/-- The characters of a class code, the highest byte first. -/
def codeBytes (code : UInt32) : List UInt8 :=
  [(code >>> 24).toUInt8, (code >>> 16).toUInt8, (code >>> 8).toUInt8, code.toUInt8]

/-- Whether a byte can stand in a literal as a character. -/
def isLiteralByte (b : UInt8) : Bool :=
  decide (0x20 ≤ b ∧ b ≤ 0x7E) && b != 0x5C && b != 0x22

/-- The class of a name: its characters, or its code if they would not show. -/
def classLiteral (name : String) : String :=
  match ClassTable.byName? name with
  | none => "TagClass::NULL"
  | some entry =>
    let bytes := codeBytes entry.code
    if bytes.all isLiteralByte then
      let chars := String.ofList (bytes.map fun b => Char.ofNat b.toNat)
      s!"TagClass::new(*b{stringLiteral chars})"
    else s!"TagClass({Text.hexPadded 8 entry.code.toNat})"

/-- A list of classes. -/
def classList (classes : List String) : String := s!"&[{commaSeparated (classes.map classLiteral)}]"

/-- The class that a null reference of a field with the given classes is restored to. -/
def defaultClass (classes : List String) : String :=
  match classes with
  | first :: _ => s!"Some({classLiteral first})"
  | [] => "None"

/-- How a blob is found. -/
def blobSelector : BlobSelector → String
  | .pointer => "BlobSelector::Pointer"
  | .fileOffset => "BlobSelector::FileOffset"
  | .external source => s!"BlobSelector::External(DataSource::{source.name})"

/-- The structs that an index may point into. -/
def structTags (names : List String) : String :=
  let tags := names.map (· ++ "::TAG")
  s!"&[{commaSeparated tags}]"

/-- The lengths of the arrays of a struct, for its frame on the stack. -/
def arrayLengths (s : ClassifiedStruct) : List String :=
  s.arrays.map fun (field, _) =>
    s!"({stringLiteral field.identifier}, self.{field.identifier}.len())"

/-- The statement that enters the frame of a struct: with the lengths of its arrays if it has any,
by name if something looks into the stack, else only to keep it. -/
def enterFrame (s : ClassifiedStruct) (looked : Bool) : String :=
  match arrayLengths s with
  | [] =>
    if looked then "let stack = stack.enter(Self::TAG, &[]);"
    else "let _frame = stack.enter(Self::TAG, &[]);"
  | lengths => s!"let mut stack = stack.enter(Self::TAG, &[{commaSeparated lengths}]);"

/-- The struct and the name of a field, as arguments of a call. -/
def siteArguments (s : ClassifiedStruct) (field : ClassifiedField) : String :=
  s!"{stringLiteral s.name}, {stringLiteral field.identifier}"

end Emit

end TagSchema
