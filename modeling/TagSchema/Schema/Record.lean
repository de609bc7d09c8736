import TagSchema.Node
import TagSchema.Schema.Definition

/-!
# Definitions as documents

Definitions are read from documents and written as documents. A record is a map under the keys that
it declares, or a list in the order of these keys. Keys that it does not declare are passed over, no
key may come twice, and a key with a default may be missing.
-/

namespace TagSchema

/-! ### Readers of single values -/

namespace Node

/-- The double-precision number nearest to a whole number. -/
def realOfWhole (n : Int) : Binary64 :=
  let magnitude := (BinaryFormat.double.ofDecimal n.natAbs 0).toUInt64
  ⟨if n < 0 then magnitude ||| 0x8000000000000000 else magnitude⟩

/-- A text. -/
def text? : Node → Option String
  | .text value => some value
  | _ => none

/-- A truth value. -/
def bool? : Node → Option Bool
  | .bool value => some value
  | _ => none

/-- A whole number from zero up to, but not including, a limit. -/
def natBelow? (limit : Nat) : Node → Option Nat
  | .whole n => if 0 ≤ n ∧ n < limit then some n.toNat else none
  | _ => none

/-- A number. -/
def real? : Node → Option Binary64
  | .whole n => some (realOfWhole n)
  | .real value => some value
  | _ => none

/-- A value that may be null. -/
def nullable? {α : Type} (read : Node → Option α) : Node → Option (Option α)
  | .null => some none
  | node => (read node).map some

/-- A list. -/
def list? {α : Type} (read : Node → Option α) : Node → Option (List α)
  | .list items => items.mapM read
  | _ => none

end Node

/-! ### Records -/

namespace RecordReader

/-- The values of a record under its keys. -/
abbrev Entries := List (String × Node)

/-- The declared key that a key of a document stands for: its name, or its position. -/
inductive KeyMeaning where
  | declared (key : String)
  | unknown
  | invalid

/-- What a key of a document stands for. -/
def meaning (keys : List String) : Node → KeyMeaning
  | .text name => if name ∈ keys then .declared name else .unknown
  | .whole n => if n < 0 then .invalid else (keys[n.toNat]?).elim .unknown .declared
  | _ => .invalid

/-- The entries of a record under declared keys; none if a key comes twice. -/
def entries? (keys : List String) : Node → Option Entries
  | .map items =>
    items.foldlM (fun (found : Entries) (key, value) =>
      match meaning keys key with
      | .declared name => if (found.lookup name).isSome then none else some ((name, value) :: found)
      | .unknown => some found
      | .invalid => none) []
  | .list items => if items.length ≤ keys.length then some (keys.zip items) else none
  | _ => none

/-- The value under a key that must be present. -/
def required {α : Type} (entries : Entries) (key : String) (read : Node → Option α) : Option α :=
  (entries.lookup key).bind read

/-- The value under a key, or a default when the key is missing. -/
def withDefault {α : Type} (entries : Entries) (key : String) (read : Node → Option α)
    (default : α) : Option α :=
  match entries.lookup key with
  | some node => read node
  | none => some default

/-- The value under a key that may be missing or null. -/
def optional {α : Type} (entries : Entries) (key : String) (read : Node → Option α) :
    Option (Option α) :=
  withDefault entries key (Node.nullable? read) none

/-- A flag that is off when its key is missing. -/
def flag (entries : Entries) (key : String) : Option Bool :=
  withDefault entries key Node.bool? false

end RecordReader

open RecordReader

/-! ### Reading -/

namespace OptionRecord

/-- The keys of an option. -/
def keys : List String :=
  ["name", "display_name", "member_name", "description", "excluded", "cache_only", "read_only"]

/-- An option that is spelled out. -/
def readDetail (node : Node) : Option OptionDetail := do
  let entries ← entries? keys node
  let name ← required entries "name" Node.text?
  let displayName ← optional entries "display_name" Node.text?
  let memberName ← optional entries "member_name" Node.text?
  let description ← optional entries "description" Node.text?
  let excluded ← flag entries "excluded"
  let cacheOnly ← flag entries "cache_only"
  let readOnly ← flag entries "read_only"
  return { name, displayName, memberName, description, excluded, cacheOnly, readOnly }

/-- An option. -/
def ofNode? : Node → Option OptionRecord
  | .text name => some (.bare name)
  | node => (readDetail node).map .detailed

end OptionRecord

/-- A byte order by its name. A map from the name to nothing will do too. -/
def ByteOrder.ofNode? : Node → Option ByteOrder
  | .text "little" | .map [(.text "little", .null)] | .map [(.text "little", .map [])] =>
    some .little
  | .text "big" | .map [(.text "big", .null)] | .map [(.text "big", .map [])] => some .big
  | _ => none

/-- A default: a number or a list of numbers. -/
def DefaultValue.ofNode? (node : Node) : Option DefaultValue :=
  match node.real? with
  | some value => some (.single value)
  | none => (Node.list? Node.real? node).map .multiple

namespace FieldRecord

/-- The keys of a field. -/
def keys : List String :=
  ["name", "type", "size", "count", "bounds", "minimum", "maximum", "hek_maximum", "default",
    "default_sign", "endian", "classes", "struct", "reflexive", "non_null", "cache_only", "unused",
    "hidden", "read_only", "volatile", "normalize", "shifted_by_one", "file_offset",
    "external_file_offset", "display_name", "member_name", "comment", "unit"]

/-- A field. -/
def ofNode? (node : Node) : Option FieldRecord := do
  let entries ← entries? keys node
  let name ← optional entries "name" Node.text?
  let typeName ← required entries "type" Node.text?
  let size ← optional entries "size" (Node.natBelow? UInt64.size)
  let count ← optional entries "count" (Node.natBelow? UInt64.size)
  let bounds ← flag entries "bounds"
  let minimum ← optional entries "minimum" Node.real?
  let maximum ← optional entries "maximum" Node.real?
  let stockMaximum ← optional entries "hek_maximum" (Node.natBelow? UInt32.size)
  let default ← optional entries "default" DefaultValue.ofNode?
  let defaultSign ← flag entries "default_sign"
  let order ← optional entries "endian" ByteOrder.ofNode?
  let classes ← withDefault entries "classes" (Node.list? Node.text?) []
  let struct ← optional entries "struct" Node.text?
  let reflexive ← optional entries "reflexive" Node.text?
  let nonNull ← flag entries "non_null"
  let cacheOnly ← flag entries "cache_only"
  let unused ← flag entries "unused"
  let hidden ← flag entries "hidden"
  let readOnly ← optional entries "read_only" Node.bool?
  let volatile ← flag entries "volatile"
  let normalize ← flag entries "normalize"
  let shiftedByOne ← flag entries "shifted_by_one"
  let fileOffset ← flag entries "file_offset"
  let externalFile ← optional entries "external_file_offset" Node.text?
  let displayName ← optional entries "display_name" Node.text?
  let memberName ← optional entries "member_name" Node.text?
  let comment ← optional entries "comment" Node.text?
  let unit ← optional entries "unit" Node.text?
  return {
    name, typeName, size, count, bounds, minimum, maximum, stockMaximum, default, defaultSign,
    order, classes, struct, reflexive, nonNull, cacheOnly, unused, hidden, readOnly, volatile,
    normalize, shiftedByOne, fileOffset, externalFile, displayName, memberName, comment, unit }

end FieldRecord

namespace Definition

/-- An enum. -/
def readEnum (node : Node) : Option EnumRecord := do
  let entries ← entries? ["name", "options", "width", "description"] node
  let name ← required entries "name" Node.text?
  let options ← required entries "options" (Node.list? OptionRecord.ofNode?)
  let width ← optional entries "width" (Node.natBelow? UInt8.size)
  let description ← optional entries "description" Node.text?
  return { name, options, width, description }

/-- A set of flags. -/
def readBitfield (node : Node) : Option BitfieldRecord := do
  let entries ← entries? ["name", "width", "fields", "description"] node
  let name ← required entries "name" Node.text?
  let width ← required entries "width" (Node.natBelow? UInt8.size)
  let fields ← required entries "fields" (Node.list? OptionRecord.ofNode?)
  let description ← optional entries "description" Node.text?
  return { name, width, fields, description }

/-- A struct. -/
def readStruct (node : Node) : Option StructRecord := do
  let entries ← entries? ["name", "inherits", "fields", "size", "title", "minimum", "maximum",
    "read_only", "description"] node
  let name ← required entries "name" Node.text?
  let inherits ← optional entries "inherits" Node.text?
  let fields ← required entries "fields" (Node.list? FieldRecord.ofNode?)
  let size ← required entries "size" (Node.natBelow? UInt64.size)
  let title ← optional entries "title" Node.text?
  let minimum ← optional entries "minimum" (Node.natBelow? UInt32.size)
  let maximum ← optional entries "maximum" (Node.natBelow? UInt32.size)
  let readOnly ← flag entries "read_only"
  let description ← optional entries "description" Node.text?
  return { name, inherits, fields, size, title, minimum, maximum, readOnly, description }

/-- Whether a key is the one that says what kind of definition a record is. -/
def isKindKey : Node → Bool
  | .text "type" => true
  | _ => false

/-- The kind of a definition and the rest of its record: the value under `type`, which may not come
twice, or the first item of a list. -/
def splitKind? : Node → Option (Node × Node)
  | .map entries =>
    match entries.partition fun (key, _) => isKindKey key with
    | ([(_, kind)], rest) => some (kind, .map rest)
    | _ => none
  | .list (kind :: rest) => some (kind, .list rest)
  | _ => none

/-- A definition. -/
def ofNode? (node : Node) : Option Definition := do
  let (kind, rest) ← splitKind? node
  match kind with
  | .text "enum" => (readEnum rest).map .enum
  | .text "bitfield" => (readBitfield rest).map .bitfield
  | .text "struct" => (readStruct rest).map .struct
  | _ => none

end Definition

/-- The definitions of a document. -/
def DefinitionGroup.ofNode? (name : String) (node : Node) : Option DefinitionGroup :=
  (Node.list? Definition.ofNode? node).map fun definitions => { name, definitions }

/-! ### Writing -/

namespace Node

/-- A value that may be absent. -/
def ofOption {α : Type} (write : α → Node) : Option α → Node
  | some value => write value
  | none => .null

/-- A natural number. -/
def ofNat (n : Nat) : Node := .whole n

/-- A list. -/
def ofList {α : Type} (write : α → Node) (items : List α) : Node := .list (items.map write)

end Node

/-- An option as a document. -/
def OptionRecord.toNode : OptionRecord → Node
  | .bare name => .text name
  | .detailed detail => .record [
      ("name", .text detail.name),
      ("display_name", .ofOption .text detail.displayName),
      ("member_name", .ofOption .text detail.memberName),
      ("description", .ofOption .text detail.description),
      ("excluded", .bool detail.excluded),
      ("cache_only", .bool detail.cacheOnly),
      ("read_only", .bool detail.readOnly)]

/-- A byte order as a document. -/
def ByteOrder.toNode : ByteOrder → Node
  | .little => .text "little"
  | .big => .text "big"

/-- A default as a document. -/
def DefaultValue.toNode : DefaultValue → Node
  | .single value => .real value
  | .multiple values => .ofList .real values

/-- A field as a document. -/
def FieldRecord.toNode (field : FieldRecord) : Node := .record [
  ("name", .ofOption .text field.name),
  ("type", .text field.typeName),
  ("size", .ofOption .ofNat field.size),
  ("count", .ofOption .ofNat field.count),
  ("bounds", .bool field.bounds),
  ("minimum", .ofOption .real field.minimum),
  ("maximum", .ofOption .real field.maximum),
  ("hek_maximum", .ofOption .ofNat field.stockMaximum),
  ("default", .ofOption DefaultValue.toNode field.default),
  ("default_sign", .bool field.defaultSign),
  ("endian", .ofOption ByteOrder.toNode field.order),
  ("classes", .ofList .text field.classes),
  ("struct", .ofOption .text field.struct),
  ("reflexive", .ofOption .text field.reflexive),
  ("non_null", .bool field.nonNull),
  ("cache_only", .bool field.cacheOnly),
  ("unused", .bool field.unused),
  ("hidden", .bool field.hidden),
  ("read_only", .ofOption .bool field.readOnly),
  ("volatile", .bool field.volatile),
  ("normalize", .bool field.normalize),
  ("shifted_by_one", .bool field.shiftedByOne),
  ("file_offset", .bool field.fileOffset),
  ("external_file_offset", .ofOption .text field.externalFile),
  ("display_name", .ofOption .text field.displayName),
  ("member_name", .ofOption .text field.memberName),
  ("comment", .ofOption .text field.comment),
  ("unit", .ofOption .text field.unit)]

/-- A definition as a document. -/
def Definition.toNode : Definition → Node
  | .enum record => .record [
      ("type", .text "enum"),
      ("name", .text record.name),
      ("options", .ofList OptionRecord.toNode record.options),
      ("width", .ofOption .ofNat record.width),
      ("description", .ofOption .text record.description)]
  | .bitfield record => .record [
      ("type", .text "bitfield"),
      ("name", .text record.name),
      ("width", .ofNat record.width),
      ("fields", .ofList OptionRecord.toNode record.fields),
      ("description", .ofOption .text record.description)]
  | .struct record => .record [
      ("type", .text "struct"),
      ("name", .text record.name),
      ("inherits", .ofOption .text record.inherits),
      ("fields", .ofList FieldRecord.toNode record.fields),
      ("size", .ofNat record.size),
      ("title", .ofOption .text record.title),
      ("minimum", .ofOption .ofNat record.minimum),
      ("maximum", .ofOption .ofNat record.maximum),
      ("read_only", .bool record.readOnly),
      ("description", .ofOption .text record.description)]

/-- A group as a document: the list of its definitions. -/
def DefinitionGroup.toNode (group : DefinitionGroup) : Node :=
  .ofList Definition.toNode group.definitions

end TagSchema
