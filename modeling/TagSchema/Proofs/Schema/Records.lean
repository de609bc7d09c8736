import TagSchema.Proofs.Json.Reading
import TagSchema.Proofs.Schema.Entries
import TagSchema.Schema.Source

/-!
# Records survive writing and reading

The records of a schema are read from what they are written as: enums, sets of flags and structs
with all that is in them. `IsWritten` says what a record may be written as, down to its options and
fields: any of the entries that are defaults may be left out. Two things are asked of the records:
the numbers are in the ranges of their entries, and a finite number is read as it is written.
-/

namespace TagSchema

open RecordEntry

/-! ### What records are written as -/

/-- The entries of an option. -/
def OptionDetail.entries (detail : OptionDetail) : List RecordEntry := [
  .needed "name" (.text detail.name),
  .nullable "display_name" .text detail.displayName,
  .nullable "member_name" .text detail.memberName,
  .nullable "description" .text detail.description,
  .switch "excluded" detail.excluded,
  .switch "cache_only" detail.cacheOnly,
  .switch "read_only" detail.readOnly]

/-- What an option is written as: a bare name, or a record that may leave out defaults. -/
inductive OptionRecord.IsWritten : OptionRecord → Node → Prop
  | bare (name : String) : IsWritten (.bare name) (.text name)
  | detailed {detail : OptionDetail} {kept : List (String × Node)}
    (entries : LeavesOut detail.entries kept) : IsWritten (.detailed detail) (.record kept)

/-- The entries of a field. Whether a field is read-only may be left open. -/
def FieldRecord.entries (field : FieldRecord) : List RecordEntry := [
  .nullable "name" .text field.name,
  .needed "type" (.text field.typeName),
  .nullable "size" .ofNat field.size,
  .nullable "count" .ofNat field.count,
  .switch "bounds" field.bounds,
  .nullable "minimum" .real field.minimum,
  .nullable "maximum" .real field.maximum,
  .nullable "hek_maximum" .ofNat field.stockMaximum,
  .nullable "default" DefaultValue.toNode field.default,
  .switch "default_sign" field.defaultSign,
  .nullable "endian" ByteOrder.toNode field.order,
  .texts "classes" field.classes,
  .nullable "struct" .text field.struct,
  .nullable "reflexive" .text field.reflexive,
  .switch "non_null" field.nonNull,
  .switch "cache_only" field.cacheOnly,
  .switch "unused" field.unused,
  .switch "hidden" field.hidden,
  .nullable "read_only" .bool field.readOnly,
  .switch "volatile" field.volatile,
  .switch "normalize" field.normalize,
  .switch "shifted_by_one" field.shiftedByOne,
  .switch "file_offset" field.fileOffset,
  .nullable "external_file_offset" .text field.externalFile,
  .nullable "display_name" .text field.displayName,
  .nullable "member_name" .text field.memberName,
  .nullable "comment" .text field.comment,
  .nullable "unit" .text field.unit]

/-- What a field is written as. -/
inductive FieldRecord.IsWritten (field : FieldRecord) : Node → Prop
  | record {kept : List (String × Node)} (entries : LeavesOut field.entries kept) :
    IsWritten field (.record kept)

/-- The entries of an enum with its options as documents. -/
def EnumRecord.entries (record : EnumRecord) (options : List Node) : List RecordEntry := [
  .needed "name" (.text record.name),
  .needed "options" (.list options),
  .nullable "width" .ofNat record.width,
  .nullable "description" .text record.description]

/-- The entries of a set of flags with its flags as documents. -/
def BitfieldRecord.entries (record : BitfieldRecord) (fields : List Node) : List RecordEntry := [
  .needed "name" (.text record.name),
  .needed "width" (.ofNat record.width),
  .needed "fields" (.list fields),
  .nullable "description" .text record.description]

/-- The entries of a struct with its fields as documents. -/
def StructRecord.entries (record : StructRecord) (fields : List Node) : List RecordEntry := [
  .needed "name" (.text record.name),
  .nullable "inherits" .text record.inherits,
  .needed "fields" (.list fields),
  .needed "size" (.ofNat record.size),
  .nullable "title" .text record.title,
  .nullable "minimum" .ofNat record.minimum,
  .nullable "maximum" .ofNat record.maximum,
  .switch "read_only" record.readOnly,
  .nullable "description" .text record.description]

/-- The keys of an enum are distinct, and none of them is that of its kind. -/
theorem EnumRecord.nodup_keys (record : EnumRecord) (options : List Node) :
    ("type" :: (record.entries options).map key).Nodup :=
  show ["type", "name", "options", "width", "description"].Nodup by decide

/-- The keys of a bitfield are distinct, and none of them is that of its kind. -/
theorem BitfieldRecord.nodup_keys (record : BitfieldRecord) (fields : List Node) :
    ("type" :: (record.entries fields).map key).Nodup :=
  show ["type", "name", "width", "fields", "description"].Nodup by decide

/-- The keys of a struct are distinct, and none of them is that of its kind. -/
theorem StructRecord.nodup_keys (record : StructRecord) (fields : List Node) :
    ("type" :: (record.entries fields).map key).Nodup :=
  show ["type", "name", "inherits", "fields", "size", "title", "minimum", "maximum", "read_only",
    "description"].Nodup by decide

/-- What a definition is written as: its kind, then a record of that kind. -/
inductive Definition.IsWritten : Definition → Node → Prop
  | enum {record : EnumRecord} {options : List Node} {kept : List (String × Node)}
    (inside : List.Forall₂ OptionRecord.IsWritten record.options options)
    (entries : LeavesOut (record.entries options) kept) :
    IsWritten (.enum record) (.record (("type", .text "enum") :: kept))
  | bitfield {record : BitfieldRecord} {fields : List Node} {kept : List (String × Node)}
    (inside : List.Forall₂ OptionRecord.IsWritten record.fields fields)
    (entries : LeavesOut (record.entries fields) kept) :
    IsWritten (.bitfield record) (.record (("type", .text "bitfield") :: kept))
  | struct {record : StructRecord} {fields : List Node} {kept : List (String × Node)}
    (inside : List.Forall₂ FieldRecord.IsWritten record.fields fields)
    (entries : LeavesOut (record.entries fields) kept) :
    IsWritten (.struct record) (.record (("type", .text "struct") :: kept))

/-- What a group is written as: the list of what its definitions are written as. -/
def DefinitionGroup.IsWritten (group : DefinitionGroup) (node : Node) : Prop :=
  ∃ nodes, List.Forall₂ Definition.IsWritten group.definitions nodes ∧ node = .list nodes

theorem forall₂_written {α : Type} {IsWritten : α → Node → Prop} {write : α → Node}
    (h : ∀ value, IsWritten value (write value)) (values : List α) :
    List.Forall₂ IsWritten values (values.map write) := by
  rw [List.forall₂_map_right_iff, List.forall₂_same]
  exact fun value _ => h value

/-! ### Ways to write records -/

section
variable (choose : List RecordEntry → List (String × Node))

/-- An option with a choice of its entries. -/
def OptionRecord.chosen : OptionRecord → Node
  | .bare name => .text name
  | .detailed detail => .record (choose detail.entries)

/-- A field with a choice of its entries. -/
def FieldRecord.chosen (field : FieldRecord) : Node := .record (choose field.entries)

/-- A definition with a choice of its entries. -/
def Definition.chosen : Definition → Node
  | .enum record => .record (("type", .text "enum") ::
      choose (record.entries (record.options.map (OptionRecord.chosen choose))))
  | .bitfield record => .record (("type", .text "bitfield") ::
      choose (record.entries (record.fields.map (OptionRecord.chosen choose))))
  | .struct record => .record (("type", .text "struct") ::
      choose (record.entries (record.fields.map (FieldRecord.chosen choose))))

/-- A group with a choice of the entries of its records. -/
def DefinitionGroup.chosen (group : DefinitionGroup) : Node :=
  .ofList (Definition.chosen choose) group.definitions

variable {choose} (fair : ∀ all, LeavesOut all (choose all))
include fair

/-- Whichever defaults are left out, what is chosen to be written of an option is one of its written
forms. -/
theorem OptionRecord.isWritten_chosen (option : OptionRecord) :
    option.IsWritten (option.chosen choose) := by
  cases option with
  | bare name => exact .bare name
  | detailed detail => exact .detailed (fair detail.entries)

theorem FieldRecord.isWritten_chosen (field : FieldRecord) :
    field.IsWritten (field.chosen choose) :=
  .record (fair field.entries)

theorem Definition.isWritten_chosen (definition : Definition) :
    definition.IsWritten (definition.chosen choose) := by
  cases definition with
  | enum record => exact .enum (forall₂_written (OptionRecord.isWritten_chosen fair) _) (fair _)
  | bitfield record =>
    exact .bitfield (forall₂_written (OptionRecord.isWritten_chosen fair) _) (fair _)
  | struct record => exact .struct (forall₂_written (FieldRecord.isWritten_chosen fair) _) (fair _)

/-- Whichever defaults are left out anywhere in a group, the result is one of its written forms. -/
theorem DefinitionGroup.isWritten_chosen (group : DefinitionGroup) :
    group.IsWritten (group.chosen choose) :=
  ⟨_, forall₂_written (Definition.isWritten_chosen fair) _, rfl⟩

end

/-- A group may be written with all its defaults. -/
theorem DefinitionGroup.isWritten_toNode (group : DefinitionGroup) :
    group.IsWritten group.toNode :=
  group.isWritten_chosen LeavesOut.refl

/-- A group without its defaults. -/
def DefinitionGroup.toShortNode (group : DefinitionGroup) : Node := group.chosen shortest

/-- A group may be written with none of its defaults. -/
theorem DefinitionGroup.isWritten_toShortNode (group : DefinitionGroup) :
    group.IsWritten group.toShortNode :=
  group.isWritten_chosen leavesOut_shortest

example : FieldRecord.chosen shortest { typeName := "pad", size := some 2 } =
    .record [("type", .text "pad"), ("size", .whole 2)] := rfl

/-! ### What records are read as -/

/-- The numbers of a field are in the ranges of their entries. -/
structure FieldRecord.InRange (field : FieldRecord) : Prop where
  size : ∀ n ∈ field.size, n < UInt64.size
  count : ∀ n ∈ field.count, n < UInt64.size
  stockMaximum : ∀ n ∈ field.stockMaximum, n < UInt32.size

instance (field : FieldRecord) : Decidable field.InRange :=
  decidable_of_iff ((∀ n ∈ field.size, n < UInt64.size) ∧ (∀ n ∈ field.count, n < UInt64.size) ∧
    ∀ n ∈ field.stockMaximum, n < UInt32.size)
    ⟨fun ⟨size, count, most⟩ => ⟨size, count, most⟩, fun ⟨size, count, most⟩ => ⟨size, count, most⟩⟩

/-- The numbers of a struct and its fields are in the ranges of their entries. -/
structure StructRecord.InRange (record : StructRecord) : Prop where
  fields : ∀ field ∈ record.fields, field.InRange
  size : record.size < UInt64.size
  minimum : ∀ n ∈ record.minimum, n < UInt32.size
  maximum : ∀ n ∈ record.maximum, n < UInt32.size

instance (record : StructRecord) : Decidable record.InRange :=
  decidable_of_iff ((∀ field ∈ record.fields, field.InRange) ∧ record.size < UInt64.size ∧
    (∀ n ∈ record.minimum, n < UInt32.size) ∧ ∀ n ∈ record.maximum, n < UInt32.size)
    ⟨fun ⟨fields, size, least, most⟩ => ⟨fields, size, least, most⟩,
      fun ⟨fields, size, least, most⟩ => ⟨fields, size, least, most⟩⟩

/-- The numbers of a definition are in the ranges of their entries. -/
def Definition.InRange : Definition → Prop
  | .enum record => ∀ n ∈ record.width, n < UInt8.size
  | .bitfield record => record.width < UInt8.size
  | .struct record => record.InRange

instance (definition : Definition) : Decidable definition.InRange :=
  match definition with
  | .enum record => inferInstanceAs (Decidable (∀ n ∈ record.width, n < UInt8.size))
  | .bitfield record => inferInstanceAs (Decidable (record.width < UInt8.size))
  | .struct record => inferInstanceAs (Decidable record.InRange)

/-- An option is read back from every form in which it may be written. -/
theorem OptionRecord.ofNode?_isWritten {option : OptionRecord} {node : Node}
    (written : option.IsWritten node) : OptionRecord.ofNode? node = some option := by
  cases written with
  | bare name => rfl
  | @detailed detail kept entries =>
    obtain ⟨found, collected, finds⟩ := entries.finds (show OptionRecord.keys.Nodup by decide)
    obtain ⟨name, displayName, memberName, description, excluded, cacheOnly, readOnly⟩ :=
      List.forall_iff_forall_mem.mpr finds
    have detail : readDetail (.record kept) = some detail :=
      read_then collected <| read_then (name.required _) <| read_then displayName.text <|
        read_then memberName.text <| read_then description.text <| read_then excluded.flag <|
        read_then cacheOnly.flag <| read_then readOnly.flag rfl
    exact congrArg (Option.map OptionRecord.detailed) detail

theorem DefaultValue.ofNode?_toNode (default : DefaultValue) :
    DefaultValue.ofNode? default.toNode = some default := by
  cases default with
  | single value => rfl
  | multiple values =>
    exact congrArg (Option.map DefaultValue.multiple) (Node.list?_ofList fun _ _ => rfl)

/-- A field is read back from every form in which it may be written, if its numbers fit into the
words that they are read into. -/
theorem FieldRecord.ofNode?_isWritten {field : FieldRecord} {node : Node}
    (written : field.IsWritten node) (inRange : field.InRange) :
    FieldRecord.ofNode? node = some field := by
  obtain @⟨kept, entries⟩ := written
  obtain ⟨found, collected, finds⟩ := entries.finds (show FieldRecord.keys.Nodup by decide +kernel)
  obtain ⟨name, typeName, size, count, bounds, minimum, maximum, stockMaximum, default,
    defaultSign, order, classes, struct, reflexive, nonNull, cacheOnly, unused, hidden, readOnly,
    volatile, normalize, shiftedByOne, fileOffset, externalFile, displayName, memberName, comment,
    unit⟩ := List.forall_iff_forall_mem.mpr finds
  have default' : RecordReader.optional found "default" DefaultValue.ofNode? =
      some field.default :=
    default.optional fun value _ => ⟨DefaultValue.ofNode?_toNode value, by cases value <;> nofun⟩
  have order' : RecordReader.optional found "endian" ByteOrder.ofNode? = some field.order :=
    order.optional fun value _ => by cases value <;> exact ⟨rfl, nofun⟩
  have readOnly' : RecordReader.optional found "read_only" Node.bool? = some field.readOnly :=
    readOnly.optional fun _ _ => ⟨rfl, nofun⟩
  -- One reading for each key; what is put together at the end is the field.
  exact read_then collected <| read_then name.text <| read_then (typeName.required _) <|
    read_then (size.nat inRange.size) <| read_then (count.nat inRange.count) <|
    read_then bounds.flag <| read_then minimum.real <| read_then maximum.real <|
    read_then (stockMaximum.nat inRange.stockMaximum) <| read_then default' <|
    read_then defaultSign.flag <| read_then order' <| read_then classes.texts <|
    read_then struct.text <| read_then reflexive.text <| read_then nonNull.flag <|
    read_then cacheOnly.flag <| read_then unused.flag <| read_then hidden.flag <|
    read_then readOnly' <| read_then volatile.flag <| read_then normalize.flag <|
    read_then shiftedByOne.flag <| read_then fileOffset.flag <| read_then externalFile.text <|
    read_then displayName.text <| read_then memberName.text <| read_then comment.text <|
    read_then unit.text rfl

/-- An enum is read back from its entries, whatever has been left out of them. -/
theorem Definition.readEnum_isWritten {record : EnumRecord} {options : List Node}
    {kept : List (String × Node)} (written : LeavesOut (record.entries options) kept)
    (inside : List.Forall₂ OptionRecord.IsWritten record.options options)
    (inRange : ∀ n ∈ record.width, n < UInt8.size) :
    readEnum (.record kept) = some record := by
  obtain ⟨found, collected, finds⟩ := written.finds (record.nodup_keys _).of_cons
  obtain ⟨name, options, width, description⟩ := List.forall_iff_forall_mem.mpr finds
  have each := Node.list?_of_forall₂ (inside.imp fun _ _ => OptionRecord.ofNode?_isWritten)
  exact read_then collected <| read_then (name.required _) <|
    read_then ((options.required _).trans each) <| read_then (width.nat inRange) <|
    read_then description.text rfl

/-- A bitfield is read back from its entries, whatever has been left out of them. -/
theorem Definition.readBitfield_isWritten {record : BitfieldRecord} {fields : List Node}
    {kept : List (String × Node)} (written : LeavesOut (record.entries fields) kept)
    (inside : List.Forall₂ OptionRecord.IsWritten record.fields fields)
    (inRange : record.width < UInt8.size) : readBitfield (.record kept) = some record := by
  obtain ⟨found, collected, finds⟩ := written.finds (record.nodup_keys _).of_cons
  obtain ⟨name, width, fields, description⟩ := List.forall_iff_forall_mem.mpr finds
  have each := Node.list?_of_forall₂ (inside.imp fun _ _ => OptionRecord.ofNode?_isWritten)
  exact read_then collected <| read_then (name.required _) <|
    read_then ((width.required _).trans (Node.natBelow?_ofNat inRange)) <|
    read_then ((fields.required _).trans each) <| read_then description.text rfl

/-- A struct is read back from its entries, whatever has been left out of them. -/
theorem Definition.readStruct_isWritten {record : StructRecord} {fields : List Node}
    {kept : List (String × Node)} (written : LeavesOut (record.entries fields) kept)
    (inside : List.Forall₂ FieldRecord.IsWritten record.fields fields)
    (inRange : record.InRange) : readStruct (.record kept) = some record := by
  obtain ⟨found, collected, finds⟩ := written.finds (record.nodup_keys _).of_cons
  obtain ⟨name, inherits, fields, size, title, minimum, maximum, readOnly, description⟩ :=
    List.forall_iff_forall_mem.mpr finds
  have both := (List.forall₂_and_left record.fields _).mpr ⟨inRange.fields, inside⟩
  have each : Node.list? FieldRecord.ofNode? _ = some record.fields :=
    Node.list?_of_forall₂ (both.imp fun _ _ ⟨small, h⟩ => FieldRecord.ofNode?_isWritten h small)
  exact read_then collected <| read_then (name.required _) <| read_then inherits.text <|
    read_then ((fields.required _).trans each) <|
    read_then ((size.required _).trans (Node.natBelow?_ofNat inRange.size)) <|
    read_then title.text <| read_then (minimum.nat inRange.minimum) <|
    read_then (maximum.nat inRange.maximum) <| read_then readOnly.flag <|
    read_then description.text rfl

/-- Only one key names the kind of a definition. -/
theorem Definition.isKindKey_text {key : String} (h : key ≠ "type") :
    isKindKey (.text key) = false := by
  rw [isKindKey.eq_def]
  split
  · rename_i same
    exact absurd (Node.text.inj same) h
  · rfl

/-- The kind comes first, and what is behind it is the definition itself. -/
theorem Definition.splitKind?_map {entries : List (Node × Node)}
    (plain : ∀ entry ∈ entries, isKindKey entry.1 = false) (kind : Node) :
    splitKind? (.map ((.text "type", kind) :: entries)) = some (kind, .map entries) := by
  have kinds : entries.filter (fun entry => isKindKey entry.1) = [] :=
    List.filter_eq_nil_iff.mpr fun entry mem => by rw [plain entry mem]; exact Bool.false_ne_true
  have others : entries.filter (fun entry => !isKindKey entry.1) = entries :=
    List.filter_eq_self.mpr fun entry mem => by rw [plain entry mem]; rfl
  have parted : ((Node.text "type", kind) :: entries).partition (fun entry => isKindKey entry.1) =
      ([(.text "type", kind)], entries) := by
    rw [List.partition_eq_filter_filter, List.filter_cons_of_pos rfl, kinds]
    exact congrArg _ others
  rw [splitKind?]
  simp only [parted]

/-- No key of a definition is taken for its kind, so the kind is split off and the rest is kept as
it is. -/
theorem Definition.splitKind?_record {all : List RecordEntry} {kept : List (String × Node)}
    (written : LeavesOut all kept) (distinct : ("type" :: all.map key).Nodup) (kind : Node) :
    splitKind? (.record (("type", kind) :: kept)) = some (kind, .record kept) := by
  refine splitKind?_map ?_ kind
  intro entry mem
  obtain ⟨⟨key, value⟩, inside, rfl⟩ := List.mem_map.mp mem
  refine isKindKey_text ?_
  rintro rfl
  exact distinct.notMem (written.keys.subset (List.mem_map_of_mem inside))

/-- A definition of any kind is read back from every form in which it may be written. -/
theorem Definition.ofNode?_isWritten {definition : Definition} {node : Node}
    (written : definition.IsWritten node) (inRange : definition.InRange) :
    Definition.ofNode? node = some definition := by
  cases written with
  | @enum record _ _ inside entries =>
    have read := readEnum_isWritten entries inside inRange
    exact read_then (splitKind?_record entries (record.nodup_keys _) _)
      (congrArg (Option.map Definition.enum) read)
  | @bitfield record _ _ inside entries =>
    have read := readBitfield_isWritten entries inside inRange
    exact read_then (splitKind?_record entries (record.nodup_keys _) _)
      (congrArg (Option.map Definition.bitfield) read)
  | @struct record _ _ inside entries =>
    have read := readStruct_isWritten entries inside inRange
    exact read_then (splitKind?_record entries (record.nodup_keys _) _)
      (congrArg (Option.map Definition.struct) read)

/-- A group is read back from every form in which it may be written. -/
theorem DefinitionGroup.ofNode?_isWritten {group : DefinitionGroup} {node : Node}
    (written : group.IsWritten node)
    (inRange : ∀ definition ∈ group.definitions, definition.InRange) :
    DefinitionGroup.ofNode? group.name node = some group := by
  obtain ⟨nodes, inside, rfl⟩ := written
  have both := (List.forall₂_and_left group.definitions _).mpr ⟨inRange, inside⟩
  have each : Node.list? Definition.ofNode? _ = some group.definitions :=
    Node.list?_of_forall₂ (both.imp fun _ _ ⟨small, h⟩ => Definition.ofNode?_isWritten h small)
  exact congrArg (Option.map fun definitions => (⟨group.name, definitions⟩ : DefinitionGroup)) each

/-! ### What records are written with -/

/-- The numbers of a field that are not whole. -/
def FieldRecord.reals (field : FieldRecord) : List Binary64 :=
  field.minimum.toList ++ field.maximum.toList ++ field.default.elim [] DefaultValue.values

/-- The numbers of a definition that are not whole. -/
def Definition.reals : Definition → List Binary64
  | .enum _ | .bitfield _ => []
  | .struct record => record.fields.flatMap FieldRecord.reals

/-- The numbers of a group that are not whole. -/
def DefinitionGroup.reals (group : DefinitionGroup) : List Binary64 :=
  group.definitions.flatMap Definition.reals

section
variable {room : Nat}

theorem readable_ofOption {α : Type} {write : α → Node} {value : Option α}
    (h : ∀ x ∈ value, Json.Readable room (write x)) :
    Json.Readable room (.ofOption write value) := by
  cases value with
  | none => exact .null room
  | some x => exact h x rfl

theorem readable_text (value : Option String) : Json.Readable room (.ofOption .text value) :=
  readable_ofOption fun s _ => .text room s

theorem readable_nat {limit : Nat} (below : limit ≤ Json.significandLimit) {value : Option Nat}
    (h : ∀ n ∈ value, n < limit) : Json.Readable room (.ofOption .ofNat value) :=
  readable_ofOption fun n mem => .whole room (Nat.lt_of_lt_of_le (h n mem) below)

/-- A list is readable if everything that is written in it is, one level further down. -/
theorem readable_list {α : Type} {IsWritten : α → Node → Prop} {values : List α}
    {nodes : List Node} (inside : List.Forall₂ IsWritten values nodes)
    (each : ∀ value ∈ values, ∀ {node}, IsWritten value node → Json.Readable room node) :
    Json.Readable (room + 1) (.list nodes) := by
  refine .list ?_
  induction inside with
  | nil => exact List.forall_mem_nil _
  | cons first _ ih =>
    rw [List.forall_mem_cons] at each ⊢
    exact ⟨each.1 first, ih each.2⟩

/-- Leaving entries out does not make what is left any less readable. -/
theorem RecordEntry.LeavesOut.readable {all : List RecordEntry} {kept : List (String × Node)}
    (written : LeavesOut all kept)
    (each : all.Forall fun entry => Json.Readable room entry.value) :
    ∀ entry ∈ kept, Json.Readable room entry.2 := by
  intro entry mem
  obtain ⟨source, inside, rfl⟩ := List.mem_map.mp (written.sublist.subset mem)
  exact List.forall_iff_forall_mem.mp each source inside

theorem OptionRecord.IsWritten.readable {option : OptionRecord} {node : Node}
    (written : option.IsWritten node) : Json.Readable (room + 1) node := by
  cases written with
  | bare name => exact .text _ name
  | detailed entries =>
    exact .record (entries.readable ⟨.text room _, readable_text _, readable_text _,
      readable_text _, .bool room _, .bool room _, .bool room _⟩)

theorem DefaultValue.readable {default : DefaultValue}
    (readsBack : ∀ x ∈ default.values, Json.ReadsBack x) :
    Json.Readable (room + 1) default.toNode := by
  cases default with
  | single value => exact .real _ (readsBack value List.mem_cons_self)
  | multiple values =>
    refine .list fun item mem => ?_
    obtain ⟨x, inside, rfl⟩ := List.mem_map.mp mem
    exact .real _ (readsBack x inside)

/-- A written field can be read from its text: its texts are quoted, its numbers are exact, and its
lists are two levels deep at most. -/
theorem FieldRecord.IsWritten.readable {field : FieldRecord} {node : Node}
    (written : field.IsWritten node) (inRange : field.InRange)
    (readsBack : ∀ x ∈ field.reals, Json.ReadsBack x) : Json.Readable (room + 2) node := by
  obtain ⟨entries⟩ := written
  have minimum : Json.Readable (room + 1) (.ofOption .real field.minimum) := by
    refine readable_ofOption fun x mem => .real _ (readsBack x ?_)
    exact List.mem_append_left _ (List.mem_append_left _ (Option.mem_toList.mpr mem))
  have maximum : Json.Readable (room + 1) (.ofOption .real field.maximum) := by
    refine readable_ofOption fun x mem => .real _ (readsBack x ?_)
    exact List.mem_append_left _ (List.mem_append_right _ (Option.mem_toList.mpr mem))
  have default : Json.Readable (room + 1) (.ofOption DefaultValue.toNode field.default) := by
    refine readable_ofOption fun value mem => DefaultValue.readable fun x inside => readsBack x ?_
    refine List.mem_append_right _ ?_
    rwa [Option.mem_def.mp mem]
  have order : Json.Readable (room + 1) (.ofOption ByteOrder.toNode field.order) :=
    readable_ofOption fun order _ => by cases order <;> exact .text _ _
  have classes : Json.Readable (room + 1) (.ofList .text field.classes) := by
    refine .list fun item mem => ?_
    obtain ⟨name, -, rfl⟩ := List.mem_map.mp mem
    exact .text room name
  -- The rest are texts, switches and numbers in range, in the order of the entries.
  exact .record (entries.readable ⟨readable_text _, .text _ _,
    readable_nat (Nat.le_refl _) inRange.size, readable_nat (Nat.le_refl _) inRange.count,
    .bool _ _, minimum, maximum, readable_nat (by decide) inRange.stockMaximum, default,
    .bool _ _, order, classes, readable_text _, readable_text _, .bool _ _, .bool _ _, .bool _ _,
    .bool _ _, readable_ofOption fun b _ => .bool _ b, .bool _ _, .bool _ _, .bool _ _, .bool _ _,
    readable_text _, readable_text _, readable_text _, readable_text _, readable_text _⟩)

/-- A written definition can be read from its text, four levels deep at most. -/
theorem Definition.IsWritten.readable {definition : Definition} {node : Node}
    (written : definition.IsWritten node) (inRange : definition.InRange)
    (readsBack : ∀ x ∈ definition.reals, Json.ReadsBack x) : Json.Readable (room + 4) node := by
  have small : UInt8.size ≤ Json.significandLimit := by decide
  have wide : UInt32.size ≤ Json.significandLimit := by decide
  have options {options : List OptionRecord} {nodes : List Node}
      (inside : List.Forall₂ OptionRecord.IsWritten options nodes) :
      Json.Readable (room + 3) (.list nodes) :=
    readable_list inside fun _ _ _ written => written.readable
  have whole {kind : String} {kept : List (String × Node)}
      (each : ∀ entry ∈ kept, Json.Readable (room + 3) entry.2) :
      Json.Readable (room + 4) (.record (("type", .text kind) :: kept)) :=
    .record (List.forall_mem_cons.mpr ⟨.text _ kind, each⟩)
  cases written with
  | enum inside entries =>
    exact whole (entries.readable ⟨.text _ _, options inside, readable_nat small inRange,
      readable_text _⟩)
  | bitfield inside entries =>
    exact whole (entries.readable ⟨.text _ _, .whole _ (Nat.lt_of_lt_of_le inRange small),
      options inside, readable_text _⟩)
  | @struct record fields kept inside entries =>
    have each : Json.Readable (room + 3) (.list fields) :=
      readable_list inside fun field mem _ written =>
        written.readable (inRange.fields field mem) fun x among =>
          readsBack x (List.mem_flatMap_of_mem mem among)
    exact whole (entries.readable ⟨.text _ _, readable_text _, each, .whole _ inRange.size,
      readable_text _, readable_nat wide inRange.minimum, readable_nat wide inRange.maximum,
      .bool _ _, readable_text _⟩)

/-- A written group can be read from its text, five levels deep at most. -/
theorem DefinitionGroup.IsWritten.readable {group : DefinitionGroup} {node : Node}
    (written : group.IsWritten node)
    (inRange : ∀ definition ∈ group.definitions, definition.InRange)
    (readsBack : ∀ x ∈ group.reals, Json.ReadsBack x) : Json.Readable (room + 5) node := by
  obtain ⟨nodes, inside, rfl⟩ := written
  exact readable_list inside fun definition mem _ written =>
    written.readable (inRange definition mem) fun x among =>
      readsBack x (List.mem_flatMap_of_mem mem among)

end

/-! ### Round trip -/

/-- From the text of any of its written forms a group is read back: the text gives the node, and the
node the group. -/
theorem DefinitionGroup.read?_isWritten {group : DefinitionGroup}
    (inRange : ∀ definition ∈ group.definitions, definition.InRange)
    (readsBack : ∀ x ∈ group.reals, Json.ReadsBack x) {node : Node}
    (written : group.IsWritten node) :
    DefinitionGroup.read? .json group.name (Json.compact node) = some group := by
  have readable : Json.Readable 5 node := written.readable inRange readsBack
  have document : Json.read? Json.defaultDepth (Json.compact node) = some node :=
    Json.read?_compact readable (by decide)
  exact read_then document (DefinitionGroup.ofNode?_isWritten written inRange)

/-- **Records survive writing and reading.** A group whose numbers are finite, and in the ranges of
their entries, is read from its document as it is; and so it is from every document that leaves out
entries whose values are the defaults of their keys. A finite number must be read as it is
written. -/
theorem DefinitionGroup.read?_written {group : DefinitionGroup}
    (inRange : ∀ definition ∈ group.definitions, definition.InRange)
    (finite : ∀ x ∈ group.reals, x.isFinite)
    (readsBack : ∀ x ∈ group.reals, x.isFinite → Json.ReadsBack x) :
    DefinitionGroup.read? .json group.name (Json.compact group.toNode) = some group ∧
      ∀ node, group.IsWritten node →
        DefinitionGroup.read? .json group.name (Json.compact node) = some group := by
  have all : ∀ x ∈ group.reals, Json.ReadsBack x := fun x mem => readsBack x mem (finite x mem)
  exact ⟨read?_isWritten inRange all group.isWritten_toNode,
    fun node => read?_isWritten inRange all⟩

/-- A group with a record of each kind. -/
def DefinitionGroup.weapon : DefinitionGroup where
  name := "weapon"
  definitions := [
    .enum {
      name := "WeaponType"
      options := [.bare "rifle", .detailed { name := "unused", excluded := true }] },
    .bitfield {
      name := "WeaponFlags"
      width := 16
      fields := [.bare "a", .detailed { name := "b", cacheOnly := true }] },
    .struct {
      name := "Weapon"
      size := 20
      fields := [
        { typeName := "pad", size := some 2 },
        { name := some "scale"
          typeName := "float"
          default := some (.single ⟨0x3ff0000000000000⟩)
          readOnly := some false },
        { name := some "spread"
          typeName := "float"
          bounds := true
          default := some (.multiple [⟨0x3fe0000000000000⟩, ⟨0x3ff8000000000000⟩]) }] }]

theorem DefinitionGroup.read?_written_weapon :
    (∀ definition ∈ weapon.definitions, definition.InRange) ∧
      (∀ x ∈ weapon.reals, x.isFinite ∧ Json.ReadsBack x) ∧
      DefinitionGroup.read? .json "weapon" (Json.compact weapon.toNode) = some weapon ∧
      DefinitionGroup.read? .json "weapon" (Json.compact weapon.toShortNode) = some weapon := by
  have inRange : ∀ definition ∈ weapon.definitions, definition.InRange := by decide
  have finite : ∀ x ∈ weapon.reals, x.isFinite ∧ Json.ReadsBack x := by decide +kernel
  obtain ⟨full, short⟩ := read?_written inRange (fun x mem => (finite x mem).1)
    fun x mem _ => (finite x mem).2
  exact ⟨inRange, finite, full, short weapon.toShortNode weapon.isWritten_toShortNode⟩

end TagSchema
