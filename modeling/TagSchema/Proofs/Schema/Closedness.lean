import TagSchema.Proofs.Schema.Placement

/-!
# Accepted schemas are closed

Whatever an accepted schema refers to is there: the enums, bitfields and structs that fields are
made of, the classes that dependencies allow, the field that titles a struct, and the array that an
index points into, in every struct that the index may be resolved in. The last of these needs both
directions of inheritance: the structs are found downwards, as descendants of the target, and the
array upwards, in the chain of the target, which every descendant starts with.

An enum or a bitfield with the name of a built-in type takes the place of that type. Then an array
field need not be an array, so these names have to be free.
-/

namespace TagSchema

open Relation (ReflTransGen)

/-! ### Closedness -/

/-- The types that are built in and not numeric. -/
def builtinTypes : List String :=
  ["pad", "TagDependency", "TagReflexive", "TagDataOffset", "Index", "TagID", "TagString",
    "TagFourCC"]

/-- A classified struct names a parent. -/
def ClassifiedSchema.Inherits (schema : ClassifiedSchema) (owner parent : String) : Prop :=
  ∃ s ∈ schema.structs, s.name = owner ∧ s.inherits = some parent

/-- The field is an array. -/
def ClassifiedField.IsArray (field : ClassifiedField) : Prop :=
  ∃ element minimum maximum stockMaximum,
    field.kind = .reflexive element minimum maximum stockMaximum

/-- The target is a struct of the schema, the structs listed are the target and its heirs, each
once, and each of them has the array. -/
structure IndexTarget.IsSound (schema : ClassifiedSchema) (target : IndexTarget) : Prop where
  defined : target.struct ∈ schema.structs.map (·.name)
  nodup : target.tags.Nodup
  tags : ∀ name, name ∈ target.tags ↔ name ∈ schema.structs.map (·.name) ∧
    ReflTransGen schema.Inherits name target.struct
  arrays : ∀ s ∈ schema.structs, s.name ∈ target.tags →
    ∃ f ∈ s.fields, f.identifier = target.member ∧ f.IsArray

/-- Whatever a kind refers to is there. -/
def FieldKind.IsClosed (groups : List DefinitionGroup) (schema : ClassifiedSchema) :
    FieldKind → Prop
  | .enum name width _ => ∃ record ∈ groups.flatMap (·.enums),
      record.name = name ∧ record.width.getD Resolve.defaultEnumWidth = width
  | .bitfield name width => ∃ record ∈ groups.flatMap (·.bitfields),
      record.name = name ∧ record.width = width
  | .reflexive element .. =>
      element ∈ schema.structs.map (·.name) ∨ element = "PredictedResource"
  | .dependency classes _ => ∀ c ∈ classes, c ∈ ClassTable.entries.map (·.name)
  | .index (some target) => target.IsSound schema
  | _ => True

/-- The kind is a string, a dependency or an enum. -/
def FieldKind.IsTitle (kind : FieldKind) : Prop :=
  kind = .tagString ∨ (∃ classes nonNull, kind = .dependency classes nonNull) ∨
    ∃ name width shiftedByOne, kind = .enum name width shiftedByOne

/-- The analysis has all structs of some groups and refers to nothing that is not there. -/
structure Analysis.IsClosed (groups : List DefinitionGroup) (analysis : Analysis) : Prop where
  nodup : (analysis.schema.structs.map (·.name)).Nodup
  structs : (analysis.schema.structs.map (·.name)).Perm
    ((groups.flatMap (·.structs)).map (·.name))
  kinds : ∀ s ∈ analysis.schema.structs, ∀ f ∈ s.fields, f.kind.IsClosed groups analysis.schema
  titles : ∀ s ∈ analysis.schema.structs, ∀ title ∈ s.title,
    ∃ f ∈ s.fields, f.identifier = title ∧ f.kind.IsTitle
  unresolved : analysis.unresolved = []

theorem Classify.canTitle_iff {kind : FieldKind} : canTitle kind = true ↔ kind.IsTitle := by
  cases kind <;> simp [canTitle, FieldKind.IsTitle]

/-! ### What is referred to -/

/-- Where the names of the built-in types are free, arrays are kept. -/
theorem SchemaSet.ResolvedFrom.keepsArrays {groups : List DefinitionGroup} {schema : SchemaSet}
    (resolved : schema.ResolvedFrom groups)
    (enums : ∀ record ∈ groups.flatMap (·.enums), record.name ∉ builtinTypes)
    (bitfields : ∀ record ∈ groups.flatMap (·.bitfields), record.name ∉ builtinTypes) :
    schema.KeepsArrays where
  enums e he same := by
    obtain ⟨record, hrecord, group, h⟩ := exists_mem_of_forall₂ resolved.enums he
    obtain ⟨name, -⟩ := Resolve.enum_eq_ok h
    exact enums record hrecord (name ▸ same ▸ by decide)
  bitfields b hb same := by
    obtain ⟨record, hrecord, group, h⟩ := exists_mem_of_forall₂ resolved.bitfields hb
    obtain ⟨name, -⟩ := Resolve.bitfield_eq_ok h
    exact bitfields record hrecord (name ▸ same ▸ by decide)

namespace Analysis.IsOf

variable {groups : List DefinitionGroup} {analysis : Analysis} (whole : analysis.IsOf groups)
include whole

/-- Inheritance is that of the schema. -/
theorem inherits_eq : analysis.schema.Inherits = analysis.set.Inherits := by
  ext owner parent
  constructor
  · rintro ⟨c, hc, rfl, inherits⟩
    obtain ⟨s, hs, classified⟩ := whole.exists_struct hc
    obtain ⟨-, -, name, same, -⟩ := Classify.struct_eq_ok classified
    exact ⟨s, hs, name.symm, same ▸ inherits⟩
  · rintro ⟨s, hs, rfl, inherits⟩
    obtain ⟨c, hc, classified⟩ := whole.exists_classified hs
    obtain ⟨-, -, name, same, -⟩ := Classify.struct_eq_ok classified
    exact ⟨c, hc, name, same ▸ inherits⟩

/-- Each heir of a struct was classified with every field of the struct and its ancestors. -/
theorem mem_fields_of_heir {s heir : ResolvedStruct} {chain : List ResolvedStruct}
    (hs : s ∈ analysis.set.structs) (ancestors : analysis.set.Chain s chain)
    {field : ResolvedField} (hfield : field ∈ chain.flatMap (·.fields))
    (hheir : heir ∈ analysis.set.structs)
    (path : ReflTransGen analysis.set.Inherits heir.name s.name) {c : ClassifiedStruct}
    (classified : Classify.struct analysis.set heir = .ok c) :
    ∃ f ∈ c.fields, HasKind analysis.set field f.kind ∧
      f = field.placed f.offset f.inherited f.kind := by
  obtain ⟨chain', ancestors', placed⟩ := whole.placed hheir classified
  have isPrefix := ancestors'.isPrefix whole.nodup_names hheir ancestors hs path
  have inherited : field ∈ chain'.flatMap (·.fields) := by
    obtain ⟨rest, rfl⟩ := isPrefix
    rw [List.flatMap_append]
    exact List.mem_append_left _ hfield
  obtain ⟨f, hf, -, rule, same⟩ := exists_mem_of_forall₂ placed.each.flip inherited
  exact ⟨f, hf, rule, same⟩

/-- The target of an index is sound where array fields are arrays. -/
theorem target_isSound (arrays : analysis.set.KeepsArrays) {record : FieldRecord}
    {target : IndexTarget} (points : HasTarget analysis.set record (some target)) :
    target.IsSound analysis.schema := by
  cases points with
  | @array struct reflexive s chain array _ _ defined ancestors found =>
    obtain ⟨hs, rfl⟩ := SchemaSet.struct?_eq_some defined
    have isArray : array.record.typeName = reflexiveType := by
      have := List.find?_some found
      simp only [Bool.and_eq_true, decide_eq_true_eq] at this
      exact this.1
    obtain ⟨-, perm⟩ := whole.names_perm
    refine ⟨perm.mem_iff.mpr (List.mem_map_of_mem hs), SchemaSet.nodup_descendantsOf _ _,
      fun name => ?_, fun c hc listed => ?_⟩
    · rw [SchemaSet.mem_descendantsOf, whole.inherits_eq, perm.mem_iff]
      refine ⟨fun path => ⟨?_, path⟩, And.right⟩
      obtain rfl | ⟨parent, ⟨heir, hheir, rfl, -⟩, -⟩ := Relation.ReflTransGen.cases_head path
      · exact List.mem_map_of_mem hs
      · exact List.mem_map_of_mem hheir
    · obtain ⟨heir, hheir, classified⟩ := whole.exists_struct hc
      obtain ⟨-, -, name, -⟩ := Classify.struct_eq_ok classified
      -- The array is inherited, so that it stands among the placed fields of every heir.
      obtain ⟨f, hf, rule, same⟩ := whole.mem_fields_of_heir hs
        (SchemaSet.lineage_eq_ok defined ancestors).1 (List.mem_of_find?_eq_some found) hheir
        (name ▸ SchemaSet.mem_descendantsOf.mp listed) classified
      obtain ⟨element, minimum, maximum, stockMaximum, -, -, kind⟩ :=
        rule.reflexive isArray arrays
      refine ⟨f, hf, ?_, element, minimum, maximum, stockMaximum, kind⟩
      rw [same]
      simp [ResolvedField.placed, FieldRecord.isPadding, isArray, reflexiveType,
        FieldRecord.paddingType]

/-- What the rules give a field is closed. -/
theorem kind_isClosed (arrays : analysis.set.KeepsArrays) {field : ResolvedField}
    {kind : FieldKind} (rule : HasKind analysis.set field kind) :
    kind.IsClosed groups analysis.schema := by
  cases rule with
  | number | math => trivial
  | enum _ _ found =>
    obtain ⟨record, hrecord, group, resolved⟩ := exists_mem_of_forall₂ whole.resolvedFrom.enums
      (SchemaSet.enum?_eq_some found).1
    obtain ⟨name, width, -⟩ := Resolve.enum_eq_ok resolved
    exact ⟨record, hrecord, name.symm, width.symm⟩
  | bitfield _ _ _ found =>
    obtain ⟨record, hrecord, group, resolved⟩ := exists_mem_of_forall₂
      whole.resolvedFrom.bitfields (SchemaSet.bitfield?_eq_some found).1
    obtain ⟨name, width, -⟩ := Resolve.bitfield_eq_ok resolved
    exact ⟨record, hrecord, name.symm, width.symm⟩
  | builtin _ _ _ _ builtin =>
    cases builtin with
    | dependency _ known =>
      intro c hc
      simpa [ClassTable.byName?] using known c hc
    | @reflexive element _ _ known =>
      -- The struct of the elements is defined, and ordering keeps the defined names.
      obtain ⟨-, perm⟩ := whole.names_perm
      refine known.imp (fun defined => perm.mem_iff.mpr ?_) (by simp [unorderedLeaves])
      simpa [SchemaSet.struct?] using defined
    | @index target _ points =>
      cases target with
      | none => trivial
      | some target => exact whole.target_isSound arrays points
    | _ => trivial

/-- No array is left without its element. -/
theorem unresolved_eq_nil (arrays : analysis.set.KeepsArrays) : analysis.unresolved = [] := by
  rw [whole.unresolved]
  refine List.flatMap_eq_nil_iff.mpr fun s hs => List.filterMap_eq_nil_iff.mpr fun field hf => ?_
  by_cases isArray : field.record.typeName = reflexiveType
  · obtain ⟨c, -, classified⟩ := whole.exists_classified hs
    obtain ⟨chain, ancestors, placed⟩ := whole.placed hs classified
    obtain ⟨f, -, -, rule, -⟩ := exists_mem_of_forall₂ placed.each.flip
      (List.mem_flatMap.mpr ⟨s, ancestors.self_mem, hf⟩)
    obtain ⟨element, _, _, _, named, known, -⟩ := rule.reflexive isArray arrays
    simp [ResolvedField.element?, isArray, named, known]
  · simp [ResolvedField.element?, isArray]

end Analysis.IsOf

/-- **Accepted schemas are closed.** When no enum or bitfield takes the name of a built-in type, an
accepted schema has every struct once, and whatever its fields refer to is there. -/
theorem analyze_closed {groups : List DefinitionGroup} {analysis : Analysis}
    (accepted : analyze groups = .ok analysis)
    (enums : ∀ record ∈ groups.flatMap (·.enums), record.name ∉ builtinTypes)
    (bitfields : ∀ record ∈ groups.flatMap (·.bitfields), record.name ∉ builtinTypes) :
    analysis.IsClosed groups := by
  have whole := Analysis.isOf accepted
  have arrays := whole.resolvedFrom.keepsArrays enums bitfields
  obtain ⟨nodup, perm⟩ := whole.names_perm
  refine ⟨nodup, whole.resolvedFrom.structNames ▸ perm, fun c hc f hf => ?_,
    fun c hc title ht => ?_, whole.unresolved_eq_nil arrays⟩
  · obtain ⟨s, hs, classified⟩ := whole.exists_struct hc
    obtain ⟨chain, -, placed⟩ := whole.placed hs classified
    obtain ⟨field, -, -, rule, -⟩ := exists_mem_of_forall₂ placed.each hf
    exact whole.kind_isClosed arrays rule
  · obtain ⟨s, hs, classified⟩ := whole.exists_struct hc
    obtain ⟨-, -, -, -, -, titled⟩ := Classify.struct_eq_ok classified
    obtain ⟨f, hf, same, fits⟩ := titled title ht
    exact ⟨f, hf, same, Classify.canTitle_iff.mp fits⟩

/-- A turret with a mount that has its barrels. The main barrel is one of them. -/
def turret : List DefinitionGroup := [{
  name := "turret"
  definitions := [
    .enum { name := "TurretState", options := [.bare "idle", .bare "firing"] },
    .bitfield { name := "TurretFlags", width := 8, fields := [.bare "armed"] },
    .struct {
      name := "Barrel"
      fields := [
        { name := some "state", memberName := some "state", typeName := "TurretState" },
        { name := some "flags", memberName := some "flags", typeName := "TurretFlags" },
        { typeName := "pad", size := some 1 }]
      size := 4 },
    .struct {
      name := "Mount"
      fields := [
        { name := some "label", memberName := some "label", typeName := "TagString" },
        { name := some "barrels", memberName := some "barrels", typeName := "TagReflexive"
          struct := some "Barrel" }]
      size := 44, title := some "label" },
    .struct {
      name := "Turret", inherits := some "Mount"
      fields := [
        { name := some "main barrel", memberName := some "main_barrel", typeName := "Index"
          struct := some "Mount", reflexive := some "barrels" },
        { name := some "weapon", memberName := some "weapon", typeName := "TagDependency"
          classes := ["weapon"] }]
      size := 62 }] }]

theorem analyze_closed_turret :
    ∃ analysis, analyze turret = .ok analysis ∧ analysis.IsClosed turret ∧
      analysis.schema.structs.map (·.name) = ["Barrel", "Mount", "Turret"] ∧
      ∃ s ∈ analysis.schema.structs, ∃ f ∈ s.fields,
        f.kind = .index (some ⟨"Mount", "barrels", ["Mount", "Turret"]⟩) := by
  obtain ⟨analysis, accepted, names, index⟩ : ∃ analysis, analyze turret = .ok analysis ∧
      analysis.schema.structs.map (·.name) = ["Barrel", "Mount", "Turret"] ∧
      ∃ s ∈ analysis.schema.structs, ∃ f ∈ s.fields,
        f.kind = .index (some ⟨"Mount", "barrels", ["Mount", "Turret"]⟩) :=
    ⟨_, rfl, rfl, _, .tail _ (.tail _ (.head _)), _, .tail _ (.tail _ (.head _)), rfl⟩
  exact ⟨analysis, accepted, analyze_closed accepted (by decide) (by decide), names, index⟩

end TagSchema
