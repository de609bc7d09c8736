import TagSchema.Emit.Target
import TagSchema.Proofs.Emit.Indentation

/-!
# What a file is made of

An emitted file is a header and then a block for each record that the target writes something for.
Every block is one in the sense of `IsBlock`, whatever the fields of the record are, so it is
written as if it stood alone: a record leaves the blocks of the others as they are.
-/

namespace TagSchema.Emit

/-! ### Braces -/

@[simp] theorem getLast?_braces (head : String) (body : List Step) :
    (braces head body "").getLast? = some (.closeBlock "\x7d") := by
  simp [braces, block, List.getLast?_cons]

/-- What stands between braces is a block if it closes what it opens. -/
theorem isBlock_braces {head : String} {body : List Step} (balanced : Balanced body) :
    IsBlock (.blank :: braces head body "") := by
  refine .intro ?opens (fun level => ?balanced) ?closes
  case opens => simp [braces, block, Opens]
  case balanced => rw [levelAfter_braces, balanced, Nat.add_sub_cancel]
  case closes => simp

/-! ### Definitions -/

namespace Definitions

/-- The type of an enum is a block, whatever its options are. -/
theorem isBlock_enum (e : ResolvedEnum) : IsBlock (.blank :: enum e) := by
  refine .intro ?opens (fun level => ?balanced) ?closes
  case opens => simp [enum, wrapperType, Opens]
  case balanced => simp [enum, wrapperType]
  case closes => simp [enum]

/-- The type of a bitfield is a block, whatever its flags are. -/
theorem isBlock_bitfield (b : ResolvedBitfield) : IsBlock (.blank :: bitfield b) := by
  refine .intro ?opens (fun level => ?balanced) ?closes
  case opens => simp [bitfield, wrapperType, Opens]
  case balanced => simp [bitfield, wrapperType]
  case closes => simp [bitfield]

@[simp] theorem levelAfter_struct (s : ClassifiedStruct) (level : Nat) :
    levelAfter (struct s) level = level := by
  simp only [struct, levelAfter_append, levelAfter_braces]
  rw [levelAfter_flatMap]
  · simp
  · intro field _ level
    cases editableType field <;> simp

@[simp] theorem levelAfter_layout (s : ClassifiedStruct) (form : Form) (level : Nat) :
    levelAfter (layout s form) level = level := by
  simp [layout, layoutMethods, emptyLayoutMethods]

@[simp] theorem levelAfter_transpose (s : ClassifiedStruct) (source target : Form) (level : Nat) :
    levelAfter (transpose s source target) level = level := by
  simp [transpose]

/-- The types of a struct, editable and laid out, are one block. -/
theorem isBlock_struct (s : ClassifiedStruct) : IsBlock (structBlock s) := by
  refine .intro ?opens (fun level => ?balanced) ?closes
  case opens => simp [struct, Opens]
  case balanced => simp
  case closes => simp [transpose, List.getLast?_cons]

end Definitions

/-! ### Packed codecs -/

namespace PackedCodec

/-- The checks of a field close what they open, whatever its kind. -/
@[simp] theorem levelAfter_checks (s : ClassifiedStruct) (field : ClassifiedField) (level : Nat) :
    levelAfter (checks s field) level = level := by
  rw [checks]
  cases field.kind with
  | scalar => simp
  | compound math count normalized => cases normalized <;> simp
  | index target => cases target <;> simp
  | _ => simp

/-- So does what is written to read or write it. -/
@[simp] theorem levelAfter_handle (s : ClassifiedStruct) (field : ClassifiedField) (level : Nat) :
    levelAfter (handle s field) level = level := by
  rw [handle]
  cases field.kind <;> simp

/-- The packed codec of a struct is a block. -/
theorem isBlock_struct (s : ClassifiedStruct) : IsBlock (structBlock s) := by
  refine isBlock_braces fun level => ?_
  simp [parser, compiler, tagCompiler]

end PackedCodec

/-! ### File codecs -/

namespace FileCodec

/-- Filling in the defaults of a field closes what it opens. -/
@[simp] theorem levelAfter_defaults (field : ClassifiedField) (level : Nat) :
    levelAfter (defaults field) level = level := by
  rw [defaults]
  cases field.kind with
  | scalar number count bounds minimum maximum default =>
    dsimp only
    cases default.map (numberLiteral · number.primitive.isFloat) <;>
      simp [List.mapIdx_eq_zipIdx_map]
  | compound math count => cases count <;> simp
  | _ => simp

/-- So does reading or writing what lies behind the struct. -/
@[simp] theorem levelAfter_variableData (options : Options) (s : ClassifiedStruct)
    (field : ClassifiedField) (level : Nat) :
    levelAfter (variableData options s field) level = level := by
  rw [variableData, levelAfter_ite]
  cases field.kind <;> simp

/-- The file codec of a struct is a block. -/
theorem isBlock_struct (options : Options) (s : ClassifiedStruct) :
    IsBlock (structBlock options s) := by
  refine isBlock_braces fun level => ?_
  simp [parsers, writers]

end FileCodec

/-! ### Validators -/

namespace Validators

/-- A single check closes what it opens. -/
@[simp] theorem levelAfter_check (check : Check) (level : Nat) :
    levelAfter check.steps level = level := by
  obtain ⟨test, items, correction⟩ := check
  cases items <;> cases correction <;> simp [Check.steps]

@[simp] theorem levelAfter_traversal (name : String) (checks : ClassifiedField → List Check)
    (s : ClassifiedStruct) (level : Nat) : levelAfter (traversal name checks s) level = level := by
  simp [traversal, traversalBody]

@[simp] theorem levelAfter_indexTraversal (s : ClassifiedStruct) (level : Nat) :
    levelAfter (indexTraversal s) level = level := by
  simp [indexTraversal, traversalBody]

@[simp] theorem levelAfter_refactoring (s : ClassifiedStruct) (level : Nat) :
    levelAfter (refactoring s) level = level := by
  simp only [refactoring, levelAfter_longMethod, levelAfter_ite]
  simp

/-- The comparison of a member closes what it opens, both with a test and with a loop. -/
@[simp] theorem levelAfter_memberComparison (s : ClassifiedStruct) (field : ClassifiedField)
    (level : Nat) : levelAfter (memberComparison s field) level = level := by
  rw [memberComparison]
  cases field.kind <;> simp [difference]

/-- The validators of a struct are a block. -/
theorem isBlock_struct (s : ClassifiedStruct) : IsBlock (structBlock s) := by
  refine isBlock_braces fun level => ?_
  simp [comparison]

end Validators

/-! ### Reflection -/

namespace Reflection

/-- Access to the word of an enum or a bitfield is a block. -/
theorem isBlock_wordAccess (trait name : String) (width : Nat)
    (getter setter argument names : String) :
    IsBlock (wordAccess trait name width getter setter argument names) := by
  refine isBlock_braces fun level => ?_
  simp

@[simp] theorem levelAfter_table (s : ClassifiedStruct) (level : Nat) :
    levelAfter (table s) level = level := by
  simp [table]

@[simp] theorem levelAfter_accessors (s : ClassifiedStruct) (level : Nat) :
    levelAfter (accessors s) level = level := by
  simp only [accessors, levelAfter_braces, levelAfter_append, levelAfter_method, levelAfter_cons]
  cases visibleFields s <;> cases s.title.bind s.field? <;>
    simp [List.mapIdx_eq_zipIdx_map, ← List.flatMap_def]

/-- Access to the members of a struct is a block. -/
theorem isBlock_struct (s : ClassifiedStruct) : IsBlock (structBlock s) := by
  refine .intro ?opens (fun level => ?balanced) ?closes
  case opens => simp [table, block, Opens]
  case balanced => simp
  case closes => simp [accessors, List.getLast?_cons]

end Reflection

/-! ### Files -/

/-- A record that a file may have a block for. -/
inductive Declared where
  | enum (e : ResolvedEnum)
  | bitfield (b : ResolvedBitfield)
  | struct (s : ClassifiedStruct)

/-- The records of a schema, in the order of their blocks. -/
def declared (schema : ClassifiedSchema) : List Declared :=
  schema.enums.map .enum ++ schema.bitfields.map .bitfield ++ schema.structs.map .struct

namespace Target

/-- The start of the file of a target. -/
def header (target : Target) (options : Options) : List Step :=
  Emit.header options.runtimeCrate (target ≠ .definitions)

/-- The block of a struct. -/
def structBlock (target : Target) (options : Options) (s : ClassifiedStruct) : List Step :=
  match target with
  | .definitions => Definitions.structBlock s
  | .packedCodec => PackedCodec.structBlock s
  | .fileCodec => FileCodec.structBlock options s
  | .validators => Validators.structBlock s
  | .reflection => Reflection.structBlock s

/-- The block of a record, for the targets that have one. -/
def block? (target : Target) (options : Options) : Declared → Option (List Step)
  | .enum e =>
    match target with
    | .definitions => some (.blank :: Definitions.enum e)
    | .reflection => some (Reflection.enumBlock e)
    | _ => none
  | .bitfield b =>
    match target with
    | .definitions => some (.blank :: Definitions.bitfield b)
    | .reflection => some (Reflection.bitfieldBlock b)
    | _ => none
  | .struct s => some (target.structBlock options s)

/-- The header and the blocks of some records. -/
def page (target : Target) (options : Options) (records : List Declared) : List Step :=
  target.header options ++ (records.filterMap (target.block? options)).flatten

variable (target : Target) (options : Options)

/-- Every target writes a block for a struct. -/
theorem isBlock_structBlock (s : ClassifiedStruct) : IsBlock (target.structBlock options s) := by
  cases target with
  | definitions => exact Definitions.isBlock_struct s
  | packedCodec => exact PackedCodec.isBlock_struct s
  | fileCodec => exact FileCodec.isBlock_struct options s
  | validators => exact Validators.isBlock_struct s
  | reflection => exact Reflection.isBlock_struct s

/-- Every target that writes something for a record writes a block. -/
theorem isBlock_of_block? {record : Declared} {steps : List Step}
    (h : target.block? options record = some steps) : IsBlock steps := by
  cases record with
  | enum e =>
    cases target <;> cases h
    · exact Definitions.isBlock_enum e
    · exact Reflection.isBlock_wordAccess ..
  | bitfield b =>
    cases target <;> cases h
    · exact Definitions.isBlock_bitfield b
    · exact Reflection.isBlock_wordAccess ..
  | struct s =>
    cases h
    exact target.isBlock_structBlock options s

/-- The steps of a file are its header and then the block of each record that is declared, in their
order. -/
theorem steps_eq_page (schema : ClassifiedSchema) :
    target.steps schema options = target.page options (declared schema) := by
  cases target <;>
    simp [steps, Definitions.steps, PackedCodec.steps, FileCodec.steps, Validators.steps,
      Reflection.steps, page, header, declared, block?, structBlock, List.filterMap_map,
      Function.comp_def, List.flatMap_def]

/-- The writer is ready for a block before and after each of them. -/
theorem run_page (records : List Declared) :
    (Writer.run {} (target.page options records)).Ready ∧
      render (target.page options records) = render (target.header options) ++
        String.join ((records.filterMap (target.block? options)).map
          fun steps => "\n" ++ render steps) := by
  rw [page, render, Writer.run_append]
  refine (Writer.ready_header options.runtimeCrate (target ≠ .definitions)).run_blocks ?_
  intro steps mem
  obtain ⟨record, -, found⟩ := List.mem_filterMap.mp mem
  exact target.isBlock_of_block? options found

/-- **Emission is compositional.** A file is the header of its target and one block for each record
that the target describes, each of which follows from the record and the options. Wherever a block
ends, the indentation is zero. So the block of a struct is the same text whatever stands before and
after it. -/
theorem emit_compositional :
    (∀ records, (Writer.run {} (target.page options records)).indent = 0) ∧
    (∀ schema, target.steps schema options = target.page options (declared schema) ∧
      target.emit schema options = render (target.header options) ++
        String.join (((declared schema).filterMap (target.block? options)).map
          fun steps => "\n" ++ render steps)) ∧
    ∀ (schema : ClassifiedSchema) (before : List ClassifiedStruct) (s : ClassifiedStruct)
      (after : List ClassifiedStruct),
      target.emit { schema with structs := before ++ s :: after } options =
        target.emit { schema with structs := before } options ++
          ("\n" ++ render (target.structBlock options s)) ++
            String.join (after.map fun s' => "\n" ++ render (target.structBlock options s')) := by
  have emitted (schema : ClassifiedSchema) : target.emit schema options =
      render (target.header options) ++
        String.join (((declared schema).filterMap (target.block? options)).map
          fun steps => "\n" ++ render steps) := by
    rw [emit, steps_eq_page, (target.run_page options _).2]
  refine ⟨fun records => (target.run_page options records).1.level,
    fun schema => ⟨target.steps_eq_page options schema, emitted schema⟩, ?_⟩
  intro schema before s after
  rw [emitted, emitted]
  simp [declared, block?, List.filterMap_map, Function.comp_def, String.append_assoc]

end Target

end TagSchema.Emit
