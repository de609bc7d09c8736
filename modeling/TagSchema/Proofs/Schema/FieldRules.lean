import TagSchema.Proofs.Schema.Extents
import TagSchema.Proofs.Schema.Resolving

/-!
# Rules for kinds of fields

Which kind a field has is decided by the schema and the field alone. The rules are stated here
without the struct that the field is found in, which only matters to the wording of failures, and
classifying a field is finding the kind that the rules give it (`fieldKind_eq_ok_iff`).
-/

namespace TagSchema

/-! ### Coherent records -/

namespace FieldRecord

/-- The number type of a field. -/
def number? (record : FieldRecord) : Option NumberKind := NumberKind.ofTypeName? record.typeName

/-- The math type of a field. -/
def math? (record : FieldRecord) : Option MathType := MathType.ofName? record.typeName

/-- How often a value is repeated, if it is an array. -/
def repeats (record : FieldRecord) : Option Nat :=
  if record.count = some 1 then none else record.count

/-- The numbers of the default. -/
def defaults (record : FieldRecord) : List Binary64 :=
  (record.default.map DefaultValue.values).getD []

/-- What a field says about its value fits its type. -/
@[mk_iff]
structure IsCoherent (record : FieldRecord) : Prop where
  count : record.count ≠ some 0
  limits : record.minimum.isSome ∨ record.maximum.isSome →
    record.number?.isSome ∨ record.typeName = reflexiveType
  bounds : record.bounds = true → record.number?.isSome
  repeats : record.repeats.isSome → record.number?.isSome ∨ record.math?.isSome
  normalize : record.normalize = true → record.math?.any (·.normalizable)
  defaults : record.defaults ≠ [] → record.number?.isSome ∨ record.math?.isSome

end FieldRecord

/-! ### The rules -/

/-- The first array field of a list with a display name or with the identifier made from it. -/
def ResolvedField.findArray? (fields : List ResolvedField) (name : String) :
    Option ResolvedField :=
  fields.find? fun f => decide (f.record.typeName = reflexiveType) &&
    (f.displayName == name || f.identifier == Names.memberName name)

/-- What an index points into: nothing in particular unless it names a struct and one of the arrays
of that struct, its own or inherited. -/
inductive HasTarget (schema : SchemaSet) (record : FieldRecord) : Option IndexTarget → Prop
  | free (unnamed : record.struct = none ∨ record.reflexive = none) : HasTarget schema record none
  | array {struct reflexive : String} {s : ResolvedStruct} {chain : List ResolvedStruct}
      {array : ResolvedField} (hstruct : record.struct = some struct)
      (hreflexive : record.reflexive = some reflexive) (defined : schema.struct? struct = some s)
      (ancestors : schema.lineage struct = .ok chain)
      (found : ResolvedField.findArray? (chain.flatMap (·.fields)) reflexive = some array) :
      HasTarget schema record
        (some { struct, member := array.identifier, tags := schema.descendantsOf struct })

/-- The kinds of fields with a type that is built in and not numeric. -/
inductive HasBuiltinKind (schema : SchemaSet) (field : ResolvedField) : FieldKind → Prop
  | padding (type : field.record.typeName = FieldRecord.paddingType) :
      HasBuiltinKind schema field (.padding (field.record.size.getD 0))
  | dependency (type : field.record.typeName = "TagDependency")
      (known : ∀ c ∈ field.classes, (ClassTable.byName? c).isSome) :
      HasBuiltinKind schema field (.dependency field.classes field.record.nonNull)
  | reflexive {element : String} (type : field.record.typeName = reflexiveType)
      (named : field.record.struct = some element)
      (known : (schema.struct? element).isSome ∨ element ∈ unorderedLeaves) :
      HasBuiltinKind schema field (.reflexive element
        ((Classify.elementLimit field.record.minimum
          ((schema.struct? element).bind (·.minimum))).getD 0)
        ((Classify.elementLimit field.record.maximum
          ((schema.struct? element).bind (·.maximum))).getD Classify.unlimited)
        field.record.stockMaximum)
  | external {file : String} {source : DataSource} (type : field.record.typeName = "TagDataOffset")
      (named : field.record.externalFile = some file)
      (known : DataSource.ofFile? file = some source) :
      HasBuiltinKind schema field (.blob (.external source))
  | fileOffset (type : field.record.typeName = "TagDataOffset")
      (unnamed : field.record.externalFile = none) (byOffset : field.record.fileOffset = true) :
      HasBuiltinKind schema field (.blob .fileOffset)
  | pointer (type : field.record.typeName = "TagDataOffset")
      (unnamed : field.record.externalFile = none) (byPointer : field.record.fileOffset = false) :
      HasBuiltinKind schema field (.blob .pointer)
  | index {target : Option IndexTarget} (type : field.record.typeName = "Index")
      (points : HasTarget schema field.record target) :
      HasBuiltinKind schema field (.index target)
  | tagId (type : field.record.typeName = "TagID") : HasBuiltinKind schema field .tagId
  | tagString (type : field.record.typeName = "TagString") : HasBuiltinKind schema field .tagString
  | fourCC (type : field.record.typeName = "TagFourCC") : HasBuiltinKind schema field .fourCC

/-- The kinds of fields. A type is a number type if it can be, then a math type, an enum, a bitfield
and last something else that is built in. -/
inductive HasKind (schema : SchemaSet) (field : ResolvedField) : FieldKind → Prop
  | number {number : NumberKind} {default : List Binary64}
      (type : field.record.number? = some number)
      (single : field.record.bounds = true → field.record.repeats = none)
      (expanded : Classify.expandDefault field.record.defaults
        (if field.record.bounds then 2 else field.record.repeats.getD 1) = some default) :
      HasKind schema field (.scalar number field.record.repeats field.record.bounds
        field.record.minimum field.record.maximum default field.record.defaultSign)
  | math {math : MathType} {default : List Binary64} (notNumber : field.record.number? = none)
      (type : field.record.math? = some math)
      (single : field.record.defaults ≠ [] → field.record.repeats = none)
      (expanded : Classify.expandDefault field.record.defaults math.count = some default) :
      HasKind schema field (.compound math field.record.repeats field.record.normalize default
        field.record.defaultSign)
  | enum {e : ResolvedEnum} (notNumber : field.record.number? = none)
      (notMath : field.record.math? = none)
      (found : schema.enum? field.record.typeName = some e) :
      HasKind schema field (.enum e.name e.width field.record.shiftedByOne)
  | bitfield {b : ResolvedBitfield} (notNumber : field.record.number? = none)
      (notMath : field.record.math? = none)
      (notEnum : schema.enum? field.record.typeName = none)
      (found : schema.bitfield? field.record.typeName = some b) :
      HasKind schema field (.bitfield b.name b.width)
  | builtin {kind : FieldKind} (notNumber : field.record.number? = none)
      (notMath : field.record.math? = none)
      (notEnum : schema.enum? field.record.typeName = none)
      (notBitfield : schema.bitfield? field.record.typeName = none)
      (builtin : HasBuiltinKind schema field kind) : HasKind schema field kind

/-! ### The rules by type -/

namespace HasKind

variable {schema : SchemaSet} {field : ResolvedField} {kind : FieldKind}

theorem number_iff {number : NumberKind} (type : field.record.number? = some number) :
    HasKind schema field kind ↔ (field.record.bounds = true → field.record.repeats = none) ∧
      ∃ default, Classify.expandDefault field.record.defaults
          (if field.record.bounds then 2 else field.record.repeats.getD 1) = some default ∧
        kind = .scalar number field.record.repeats field.record.bounds field.record.minimum
          field.record.maximum default field.record.defaultSign := by
  constructor
  · intro rule
    cases rule with
    | number type' single expanded =>
      cases type.symm.trans type'
      exact ⟨single, _, expanded, rfl⟩
    | math notNumber | enum notNumber | bitfield notNumber | builtin notNumber =>
      cases type.symm.trans notNumber
  · rintro ⟨single, default, expanded, rfl⟩
    exact .number type single expanded

theorem math_iff {math : MathType} (notNumber : field.record.number? = none)
    (type : field.record.math? = some math) :
    HasKind schema field kind ↔ (field.record.defaults ≠ [] → field.record.repeats = none) ∧
      ∃ default, Classify.expandDefault field.record.defaults math.count = some default ∧
        kind = .compound math field.record.repeats field.record.normalize default
          field.record.defaultSign := by
  constructor
  · intro rule
    cases rule with
    | number isNumber => cases notNumber.symm.trans isNumber
    | math _ type' single expanded =>
      cases type.symm.trans type'
      exact ⟨single, _, expanded, rfl⟩
    | enum _ notMath | bitfield _ notMath | builtin _ notMath => cases type.symm.trans notMath
  · rintro ⟨single, default, expanded, rfl⟩
    exact .math notNumber type single expanded

/-- A type that is neither of numbers nor of math is looked up among the enums first. -/
theorem other_iff (notNumber : field.record.number? = none) (notMath : field.record.math? = none) :
    HasKind schema field kind ↔
      match schema.enum? field.record.typeName, schema.bitfield? field.record.typeName with
      | some e, _ => kind = .enum e.name e.width field.record.shiftedByOne
      | none, some b => kind = .bitfield b.name b.width
      | none, none => HasBuiltinKind schema field kind := by
  constructor
  · intro rule
    cases rule with
    | number isNumber => cases notNumber.symm.trans isNumber
    | math _ isMath => cases notMath.symm.trans isMath
    | enum _ _ found => rw [found]
    | bitfield _ _ notEnum found => rw [notEnum, found]
    | builtin _ _ notEnum notBitfield builtin =>
      rw [notEnum, notBitfield]
      exact builtin
  · intro h
    split at h
    · subst h
      exact .enum notNumber notMath ‹_›
    · subst h
      exact .bitfield notNumber notMath ‹_› ‹_›
    · exact .builtin notNumber notMath ‹_› ‹_› h

end HasKind

/-! ### Classifying finds the kind -/

namespace Classify

variable {schema : SchemaSet} {owner : String} {field : ResolvedField} {kind : FieldKind}

theorem failWhen_bind_eq_ok {α : Type} {condition : Bool} {error : SchemaError}
    {next : Unit → Except SchemaError α} {a : α} :
    (failWhen condition error >>= next) = .ok a ↔ condition = false ∧ next () = .ok a := by
  cases condition with
  | false => exact ⟨fun h => ⟨rfl, h⟩, And.right⟩
  | true => exact ⟨nofun, nofun⟩

theorem indexTarget_eq_ok_iff {target : Option IndexTarget} :
    indexTarget schema owner field = .ok target ↔ HasTarget schema field.record target := by
  unfold indexTarget
  split
  · -- A struct and an array are both named: they have to be there, the array in the struct or
    -- above.
    rename_i struct reflexive hstruct hreflexive
    cases defined : schema.struct? struct with
    | none =>
      refine ⟨nofun, fun points => ?_⟩
      cases points with
      | free unnamed => simp [hstruct, hreflexive] at unnamed
      | array hstruct' _ defined' =>
        cases hstruct.symm.trans hstruct'
        cases defined.symm.trans defined'
    | some s =>
      simp only [Option.isNone_some, Bool.false_eq_true, if_false]
      constructor
      · intro h
        obtain ⟨chain, ancestors, h⟩ := Except.bind_eq_ok h
        split at h
        · cases h
        · cases h
          exact .array hstruct hreflexive defined ancestors ‹_›
      · intro points
        cases points with
        | free unnamed => simp [hstruct, hreflexive] at unnamed
        | array hstruct' hreflexive' _ ancestors found =>
          cases hstruct.symm.trans hstruct'
          cases hreflexive.symm.trans hreflexive'
          rw [ResolvedField.findArray?] at found
          refine Except.bind_eq_ok_iff.mpr ⟨_, ancestors, ?_⟩
          rw [found]
          rfl
  · -- One of them is not named, so the index counts nothing in particular.
    rename_i unnamed
    constructor
    · intro h
      cases h
      refine .free (or_iff_not_imp_left.mpr fun named => ?_)
      obtain ⟨struct, hstruct⟩ := Option.ne_none_iff_exists'.mp named
      exact Option.eq_none_iff_forall_ne_some.mpr fun reflexive => unnamed struct reflexive hstruct
    · rintro (_ | ⟨hstruct, hreflexive⟩)
      · rfl
      · exact (unnamed _ _ hstruct hreflexive).elim

theorem builtinKind_eq_ok_iff :
    builtinKind schema owner field = .ok kind ↔ HasBuiltinKind schema field kind := by
  constructor
  · -- Every branch of the function is one of the constructors, or an error.
    intro h
    unfold builtinKind at h
    dsimp only at h
    split at h
    case h_1 type => cases h; exact .padding type
    case h_2 type =>
      split at h
      · cases h
      · rename_i known
        cases h
        refine .dependency type fun c hc => ?_
        simpa [Option.isSome_iff_ne_none] using List.find?_eq_none.mp known c hc
    case h_3 type =>
      split at h
      · rename_i element named
        obtain ⟨known, h⟩ := failWhen_bind_eq_ok.mp h
        cases h
        refine .reflexive type named ?_
        rw [Bool.and_eq_false_iff] at known
        simpa using known
      · cases h
    case h_4 type =>
      split at h
      · rename_i file named
        split at h
        · rename_i known
          cases h
          exact .external type named known
        · cases h
      · cases h; exact .fileOffset type ‹_› ‹_›
      · cases h; exact .pointer type ‹_› ‹_›
    case h_5 type =>
      obtain ⟨target, points, h⟩ := Except.bind_eq_ok h
      cases h
      exact .index type (indexTarget_eq_ok_iff.mp points)
    case h_6 type => cases h; exact .tagId type
    case h_7 type => cases h; exact .tagString type
    case h_8 type => cases h; exact .fourCC type
    case h_9 => cases h
  · intro h
    cases h with
    | padding type => simp only [builtinKind, type, FieldRecord.paddingType]; rfl
    | dependency type known =>
      have none : field.classes.find? (fun c => (ClassTable.byName? c).isNone) = none :=
        List.find?_eq_none.mpr fun c hc => by simpa [Option.isSome_iff_ne_none] using known c hc
      simp only [builtinKind, type, none]
      rfl
    | reflexive type named known =>
      simp only [builtinKind, type, reflexiveType, named]
      refine failWhen_bind_eq_ok.mpr ⟨?_, rfl⟩
      rw [Bool.and_eq_false_iff]
      simpa using known
    | external type named known => simp only [builtinKind, type, named, known]; rfl
    | fileOffset type unnamed byOffset => simp only [builtinKind, type, unnamed, byOffset]; rfl
    | pointer type unnamed byPointer => simp only [builtinKind, type, unnamed, byPointer]; rfl
    | index type points =>
      simp only [builtinKind, type]
      exact Except.bind_eq_ok_iff.mpr ⟨_, indexTarget_eq_ok_iff.mpr points, rfl⟩
    | tagId type => simp only [builtinKind, type]; rfl
    | tagString type => simp only [builtinKind, type]; rfl
    | fourCC type => simp only [builtinKind, type]; rfl

/-- The checks that a field passes before its kind is looked for. -/
theorem isCoherent_iff_checks {record : FieldRecord} : record.IsCoherent ↔
    (record.count == some 0) = false ∧
    ((record.minimum.isSome || record.maximum.isSome) && record.number?.isNone &&
      record.typeName != reflexiveType) = false ∧
    (record.bounds && record.number?.isNone) = false ∧
    (record.repeats.isSome && record.number?.isNone && record.math?.isNone) = false ∧
    (record.normalize && !record.math?.any (·.normalizable)) = false ∧
    (!record.defaults.isEmpty && record.number?.isNone && record.math?.isNone) = false := by
  rw [FieldRecord.isCoherent_iff]
  generalize record.number? = number, record.math? = math
  cases number <;> cases math <;> simp [-not_and, imp_iff_not_or]

/-- A field is classified exactly when it is coherent and the rules give it the kind. -/
theorem fieldKind_eq_ok_iff :
    fieldKind schema owner field = .ok kind ↔
      field.record.IsCoherent ∧ HasKind schema field kind := by
  unfold fieldKind
  simp only [failWhen_bind_eq_ok, isCoherent_iff_checks, and_assoc]
  rw [← FieldRecord.number?, ← FieldRecord.math?, ← FieldRecord.repeats, ← FieldRecord.defaults]
  -- The first six checks are the clauses of coherence, in their order.
  iterate 6 refine and_congr_right fun _ => ?_
  -- What is left depends on what the type is looked up as: a number, a compound, or any other.
  cases isNumber : field.record.number? with
  | some number =>
    have single : (field.record.bounds && field.record.repeats.isSome) = false ↔
        (field.record.bounds = true → field.record.repeats = none) := by
      simp [imp_iff_not_or]
    rw [HasKind.number_iff isNumber]
    simp only [failWhen_bind_eq_ok, single]
    refine and_congr_right fun _ => ?_
    cases expandDefault field.record.defaults
      (if field.record.bounds then 2 else field.record.repeats.getD 1) with
    | none => exact ⟨nofun, nofun⟩
    | some default =>
      constructor
      · rintro ⟨⟩
        exact ⟨_, rfl, rfl⟩
      · rintro ⟨_, ⟨⟩, rfl⟩
        rfl
  | none =>
  cases isMath : field.record.math? with
  | some math =>
    have single : (field.record.repeats.isSome && !field.record.defaults.isEmpty) = false ↔
        (field.record.defaults ≠ [] → field.record.repeats = none) := by
      simp [imp_iff_not_or, or_comm]
    rw [HasKind.math_iff isNumber isMath]
    simp only [failWhen_bind_eq_ok, single]
    refine and_congr_right fun _ => ?_
    cases expandDefault field.record.defaults math.count with
    | none => exact ⟨nofun, nofun⟩
    | some default =>
      constructor
      · rintro ⟨⟩
        exact ⟨_, rfl, rfl⟩
      · rintro ⟨_, ⟨⟩, rfl⟩
        rfl
  | none =>
    rw [HasKind.other_iff isNumber isMath]
    dsimp only
    cases schema.enum? field.record.typeName with
    | some e => exact (Iff.of_eq (Except.ok.injEq ..)).trans eq_comm
    | none =>
      cases schema.bitfield? field.record.typeName with
      | some b => exact (Iff.of_eq (Except.ok.injEq ..)).trans eq_comm
      | none => exact builtinKind_eq_ok_iff

end Classify

/-! ### What the rules say of a type -/

/-- No enum and no bitfield takes the place of arrays. -/
structure SchemaSet.KeepsArrays (schema : SchemaSet) : Prop where
  enums : ∀ e ∈ schema.enums, e.name ≠ reflexiveType
  bitfields : ∀ b ∈ schema.bitfields, b.name ≠ reflexiveType

/-- A count that is given is positive. -/
theorem FieldRecord.IsCoherent.repeats_pos {record : FieldRecord}
    (coherent : record.IsCoherent) : 0 < record.repeats.getD 1 := by
  have count := coherent.count
  unfold FieldRecord.repeats
  split
  · exact Nat.one_pos
  · cases h : record.count with
    | none => exact Nat.one_pos
    | some n => exact Nat.pos_of_ne_zero fun zero => count (zero ▸ h)

namespace HasKind

variable {schema : SchemaSet} {field : ResolvedField} {kind : FieldKind}

/-- Every field takes some bytes, if padding does. -/
theorem extent_pos (solid : schema.IsSolid) (coherent : field.record.IsCoherent)
    (rule : HasKind schema field kind)
    (padding : field.record.isPadding = true → 0 < field.record.size.getD 0) :
    0 < kind.extent := by
  cases rule with
  | @number number =>
    have primitive : 0 < number.primitive.size := by cases number <;> decide
    have bounds : 0 < if field.record.bounds then 2 else 1 := by split <;> decide
    exact Nat.mul_pos (Nat.mul_pos primitive bounds) coherent.repeats_pos
  | @math math =>
    have components : 0 < math.component.size * math.count := by cases math <;> decide
    exact Nat.mul_pos components coherent.repeats_pos
  | enum _ _ found =>
    exact Nat.div_pos (solid.enums _ (SchemaSet.enum?_eq_some found).1) (by decide)
  | bitfield _ _ _ found =>
    exact Nat.div_pos (solid.bitfields _ (SchemaSet.bitfield?_eq_some found).1) (by decide)
  -- Only padding takes its size from the record.
  | builtin _ _ _ _ builtin =>
    cases builtin with
    | padding type => exact padding (decide_eq_true type)
    | _ => simp [FieldKind.extent, FieldKind.size]

/-- Where arrays are kept, an array field is an array, and its element is known. -/
theorem reflexive (rule : HasKind schema field kind)
    (type : field.record.typeName = reflexiveType) (arrays : schema.KeepsArrays) :
    ∃ element minimum maximum stockMaximum, field.record.struct = some element ∧
      ((schema.struct? element).isSome ∨ element ∈ unorderedLeaves) ∧
      kind = .reflexive element minimum maximum stockMaximum := by
  -- No number, compound, enum or bitfield is called like the type of arrays.
  have notNumber : field.record.number? = none := by rw [FieldRecord.number?, type]; decide
  have notMath : field.record.math? = none := by rw [FieldRecord.math?, type]; decide
  cases rule with
  | number isNumber => cases isNumber.symm.trans notNumber
  | math _ isMath => cases isMath.symm.trans notMath
  | enum _ _ found =>
    obtain ⟨mem, named⟩ := SchemaSet.enum?_eq_some found
    exact absurd (named.trans type) (arrays.enums _ mem)
  | bitfield _ _ _ found =>
    obtain ⟨mem, named⟩ := SchemaSet.bitfield?_eq_some found
    exact absurd (named.trans type) (arrays.bitfields _ mem)
  | builtin _ _ _ _ builtin =>
    cases builtin with
    | reflexive _ named known => exact ⟨_, _, _, _, named, known, rfl⟩
    | padding other | dependency other | external other | fileOffset other | pointer other
    | index other | tagId other | tagString other | fourCC other =>
      exact absurd (type.symm.trans other) (by decide)

end HasKind

end TagSchema
