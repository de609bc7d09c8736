import TagSchema.Proofs.Emit.SizeConstants
import TagSchema.Proofs.Schema.Placement

/-!
# Sizes of emitted layouts

The emitted code fails to build unless the layouts of a struct are as large as the schema declares
the struct. The analysis adds up the sizes of the fields too, to warn of structs that are not as
large as they are declared. It finds the sizes from the kinds of the fields, and the emitted layouts
from their types. The two agree, so the code fails to build exactly for the structs that were warned
of (`analyze_sizes`).
-/

namespace TagSchema

/-! ### Fields of accepted schemas -/

namespace Analysis.IsOf

variable {groups : List DefinitionGroup} {analysis : Analysis} (whole : analysis.IsOf groups)
include whole

theorem kind_isStorable {field : ResolvedField} {kind : FieldKind}
    (rule : HasKind analysis.set field kind) : kind.IsStorable := by
  cases rule with
  | number _ single _ => exact single
  | math => trivial
  | enum _ _ found =>
    obtain ⟨record, -, group, resolved⟩ := exists_mem_of_forall₂ whole.resolvedFrom.enums
      (SchemaSet.enum?_eq_some found).1
    exact (Resolve.enum_eq_ok resolved).2.2.1
  | bitfield _ _ _ found =>
    obtain ⟨record, -, group, resolved⟩ := exists_mem_of_forall₂ whole.resolvedFrom.bitfields
      (SchemaSet.bitfield?_eq_some found).1
    exact (Resolve.bitfield_eq_ok resolved).2.2.1
  | builtin _ _ _ _ builtin => cases builtin <;> trivial

variable {s : ClassifiedStruct} (hs : s ∈ analysis.schema.structs)
include hs

/-- The fields of a struct are at their places. -/
theorem exists_placed : ∃ fields, Placed analysis.set fields s.fields s.computedSize := by
  obtain ⟨resolved, hresolved, classified⟩ := whole.exists_struct hs
  obtain ⟨chain, -, placed⟩ := whole.placed hresolved classified
  exact ⟨_, placed⟩

theorem isStorable {field : ClassifiedField} (hfield : field ∈ s.fields) :
    field.kind.IsStorable := by
  obtain ⟨fields, placed⟩ := whole.exists_placed hs
  obtain ⟨source, -, -, rule, -⟩ := exists_mem_of_forall₂ placed.each hfield
  exact whole.kind_isStorable rule

/-- A size that a word can hold is computed exactly. -/
theorem computedSize_eq (inRange : s.InRange) : s.computedSize = s.extent := by
  obtain ⟨fields, placed⟩ := whole.exists_placed hs
  exact (placed.apart inRange).1

end Analysis.IsOf

/-! ### Warnings -/

/-- The warning that the fields of a struct do not add up to the size that is declared. -/
def sizeMismatch (name : String) (declared added : Nat) : String :=
  s!"{name} declares {Text.hex declared} bytes but its fields add up to {Text.hex added}"

theorem ClassifiedStruct.sizeWarning?_eq_some {s : ClassifiedStruct} {warning : String} :
    s.sizeWarning? = some warning ↔
      s.computedSize ≠ s.size ∧ warning = sizeMismatch s.name s.size s.computedSize := by
  unfold sizeWarning?
  split
  · rename_i same
    simp [same]
  · rename_i other
    rw [Option.some_inj, eq_comm]
    exact (and_iff_right other).symm

namespace Text

/-- The digits of a number are hexadecimal digits. -/
theorem mem_toDigits {n : Nat} {c : Char} (h : c ∈ Nat.toDigits 16 n) :
    ∃ d < 16, c = Nat.digitChar d := by
  induction n using Nat.strongRecOn with
  | ind n ih =>
    rw [Nat.toDigits_eq_if (by decide)] at h
    split at h
    · rename_i small
      exact ⟨n, small, List.mem_singleton.mp h⟩
    · rename_i large
      obtain front | last := List.mem_append.mp h
      · exact ih (n / 16) (by omega) front
      · exact ⟨n % 16, by omega, List.mem_singleton.mp last⟩

theorem notMem_toDigits {c : Char} (other : ∀ d < 16, c ≠ Nat.digitChar d) (n : Nat) :
    c ∉ Nat.toDigits 16 n := by
  intro h
  obtain ⟨d, hd, same⟩ := mem_toDigits h
  exact other d hd same

end Text

/-- The struct that a warning is about can be read from its text. -/
theorem name_of_sizeMismatch {name name' : String} {declared declared' added added' : Nat}
    (same : sizeMismatch name declared added = sizeMismatch name' declared' added') :
    name = name' := by
  -- Read backwards, each number ends at its mark.
  have backwards : ∀ (name : String) (declared added : Nat),
      (sizeMismatch name declared added).toList.reverse =
        (Nat.toDigits 16 added).reverse ++ 'x' :: ('0' ::
          " bytes but its fields add up to ".toList.reverse ++
            ((Nat.toDigits 16 declared).reverse ++ 'x' :: ('0' :: " declares ".toList.reverse ++
              name.toList.reverse))) := by
    intro name declared added
    have mark : "0x".toList.reverse = ['x', '0'] := by decide
    change (name ++ " declares " ++ ("0x" ++ String.ofList (Nat.toDigits 16 declared)) ++
      " bytes but its fields add up to " ++
      ("0x" ++ String.ofList (Nat.toDigits 16 added))).toList.reverse = _
    simp only [String.toList_append, String.toList_ofList, List.reverse_append, List.append_assoc,
      mark, List.cons_append, List.nil_append]
  have ends : ∀ n, 'x' ∉ (Nat.toDigits 16 n).reverse := fun n =>
    List.mem_reverse.not.mpr (Text.notMem_toDigits (by decide) n)
  have whole := congrArg (·.toList.reverse) same
  simp only [backwards] at whole
  obtain ⟨-, rest⟩ := Text.append_cons_inj (ends _) (ends _) whole
  obtain ⟨-, rest'⟩ := Text.append_cons_inj (ends _) (ends _) (List.append_cancel_left rest)
  exact String.toList_inj.mp (List.reverse_inj.mp (List.append_cancel_left rest'))

/-- Warnings about arrays are not about sizes: they do not end in a digit. -/
theorem warning_ne_sizeMismatch (reference : UnresolvedReference) (name : String)
    (declared added : Nat) : reference.warning ≠ sizeMismatch name declared added := by
  intro same
  have letter : reference.warning.toList.getLast? = some 'n' := by
    rw [UnresolvedReference.warning, String.toList_append,
      List.getLast?_append_of_ne_nil _ (by decide)]
    decide
  have digit : (sizeMismatch name declared added).toList.getLast? =
      (Nat.toDigits 16 added).getLast? := by
    change (name ++ " declares " ++ Text.hex declared ++ " bytes but its fields add up to " ++
      ("0x" ++ String.ofList (Nat.toDigits 16 added))).toList.getLast? = _
    have nonempty : Nat.toDigits 16 added ≠ [] := Nat.toDigits_ne_nil
    rw [← String.append_assoc, String.toList_append, String.toList_ofList,
      List.getLast?_append_of_ne_nil _ nonempty]
  rw [same, digit] at letter
  exact Text.notMem_toDigits (by decide) added (List.mem_of_getLast? letter)

/-- There is a warning about the size of a struct exactly if the declared size is not that of the
fields. -/
theorem Analysis.IsOf.exists_sizeMismatch_iff {groups : List DefinitionGroup} {analysis : Analysis}
    (whole : analysis.IsOf groups) {s : ClassifiedStruct} (hs : s ∈ analysis.schema.structs) :
    (∃ declared added, sizeMismatch s.name declared added ∈ analysis.warnings) ↔
      s.computedSize ≠ s.size := by
  constructor
  · rintro ⟨declared, added, warned⟩
    obtain unresolved | mismatch := List.mem_append.mp warned
    · obtain ⟨reference, -, same⟩ := List.mem_map.mp unresolved
      exact absurd same (warning_ne_sizeMismatch reference _ _ _)
    · obtain ⟨other, hother, found⟩ := List.mem_filterMap.mp mismatch
      obtain ⟨differs, same⟩ := ClassifiedStruct.sizeWarning?_eq_some.mp found
      have name := name_of_sizeMismatch same
      obtain rfl := List.inj_on_of_nodup_map whole.names_perm.1 hs hother name
      exact differs
  · intro differs
    exact ⟨_, _, List.mem_append_right _ (List.mem_filterMap.mpr
      ⟨s, hs, ClassifiedStruct.sizeWarning?_eq_some.mpr ⟨differs, rfl⟩⟩)⟩

/-! ### Emitted sizes -/

namespace Emit.Definitions

/-- The layouts of a struct are among what is emitted. -/
theorem layout_infix_steps (schema : ClassifiedSchema) (options : Options) {s : ClassifiedStruct}
    (hs : s ∈ schema.structs) (form : Form) :
    layout s form <:+: Target.definitions.steps schema options := by
  have inBlock : layout s form <:+: structBlock s := by
    cases form with
    | file => exact ⟨.blank :: struct s ++ [.blank], .blank :: layout s .packed ++
        .blank :: transpose s .file .packed ++ .blank :: transpose s .packed .file,
        by simp [structBlock]⟩
    | packed => exact ⟨.blank :: struct s ++ .blank :: layout s .file ++ [.blank],
        .blank :: transpose s .file .packed ++ .blank :: transpose s .packed .file,
        by simp [structBlock]⟩
  obtain ⟨before, after, split⟩ := List.append_of_mem hs
  refine inBlock.trans ⟨header options.runtimeCrate false ++
    schema.enums.flatMap (fun e => .blank :: enum e) ++
    schema.bitfields.flatMap (fun b => .blank :: bitfield b) ++ before.flatMap structBlock,
    after.flatMap structBlock, ?_⟩
  simp [Target.steps, steps, split]

end Emit.Definitions

open Emit.Definitions

/-- What is emitted for a struct agrees with the sizes that were computed. -/
structure SizesAgree (analysis : Analysis) (s : ClassifiedStruct) : Prop where
  /-- The type of a field takes the bytes that its kind takes. -/
  fields : ∀ field ∈ s.fields, ∀ form size,
    TakesBytes (Emit.layoutType field form) size ↔ size = field.size
  emitted : ∀ form options,
    layout s form <:+: Emit.Target.definitions.steps analysis.schema options
  /-- The size of a layout is the one that was computed. -/
  defined : ∀ form size,
    DefinesSize (layout s form) (form.layoutName s.name) size ↔ size = s.computedSize
  /-- The size that is asserted of a layout is the one that was declared. -/
  asserted : ∀ form size,
    AssertsSize (layout s form) (form.layoutName s.name) size ↔ size = s.size

/-- What a layout asserts of its size is so. -/
def AssertionHolds (s : ClassifiedStruct) (form : Form) : Prop :=
  ∀ size, AssertsSize (layout s form) (form.layoutName s.name) size →
    DefinesSize (layout s form) (form.layoutName s.name) size

theorem SizesAgree.assertionHolds_iff {analysis : Analysis} {s : ClassifiedStruct}
    (agree : SizesAgree analysis s) {form : Form} :
    AssertionHolds s form ↔ s.size = s.computedSize := by
  simp only [AssertionHolds, agree.asserted, agree.defined, forall_eq]

namespace Analysis.IsOf

variable {groups : List DefinitionGroup} {analysis : Analysis} (whole : analysis.IsOf groups)
  {s : ClassifiedStruct} (hs : s ∈ analysis.schema.structs)
include whole hs

theorem definesSize_iff {form : Form} {size : Nat} :
    DefinesSize (layout s form) (form.layoutName s.name) size ↔ s.InRange ∧ size = s.extent :=
  definesSize_layout_iff fun _ => whole.isStorable hs

theorem sizesAgree (inRange : s.InRange) : SizesAgree analysis s where
  fields field hfield form size :=
    (takesBytes_layoutType_iff (whole.isStorable hs hfield)).trans
      (and_iff_right (inRange.field hfield))
  emitted form options := layout_infix_steps analysis.schema options hs form
  defined form size := by
    rw [whole.computedSize_eq hs inRange]
    exact (whole.definesSize_iff hs).trans (and_iff_right inRange)
  asserted form size := assertsSize_layout_iff

end Analysis.IsOf

/-- **Emitted sizes.** In what is emitted for an accepted schema, each field takes the bytes that
were computed from its kind, and each layout is as large as was computed. So what a layout asserts
of its size holds exactly if the declared size is the computed one, which is when there is no
warning about the size of the struct. That is as long as a word can hold the size of the struct: the
size of a larger one is not evaluated at all, so what its layouts assert does not hold whatever
was declared, and a field of any struct has the computed size if it has one. -/
theorem analyze_sizes {groups : List DefinitionGroup} {analysis : Analysis}
    (accepted : analyze groups = .ok analysis) {s : ClassifiedStruct}
    (hs : s ∈ analysis.schema.structs) :
    (s.InRange → SizesAgree analysis s ∧ ∀ form,
      (AssertionHolds s form ↔ s.size = s.computedSize) ∧
      (AssertionHolds s form ↔
        ¬ ∃ declared added, sizeMismatch s.name declared added ∈ analysis.warnings)) ∧
    (¬ s.InRange → ∀ form, ¬ AssertionHolds s form) ∧
    ∀ field ∈ s.fields, ∀ form size,
      TakesBytes (Emit.layoutType field form) size → size = field.size := by
  have whole := Analysis.isOf accepted
  refine ⟨fun inRange => ?_, fun tooLarge form holds => ?_, fun field hfield form size takes => ?_⟩
  · have agree := whole.sizesAgree hs inRange
    refine ⟨agree, fun form => ⟨agree.assertionHolds_iff, ?_⟩⟩
    rw [agree.assertionHolds_iff, whole.exists_sizeMismatch_iff hs, not_not, eq_comm]
  · have defined := holds s.size (assertsSize_layout_iff.mpr rfl)
    exact tooLarge ((whole.definesSize_iff hs).mp defined).1
  · exact ((takesBytes_layoutType_iff (whole.isStorable hs hfield)).mp takes).2

/-- A gauge with fields of many kinds, and a panel of gauges that is declared too large. -/
def gauges : List DefinitionGroup := [{
  name := "gauges"
  definitions := [
    .enum { name := "GaugeUnit", options := [.bare "volts", .bare "amps"] },
    .bitfield { name := "GaugeFlags", width := 8, fields := [.bare "lit"] },
    .struct {
      name := "Gauge"
      fields := [
        { name := some "range", memberName := some "range", typeName := "float", bounds := true },
        { name := some "marks", memberName := some "marks", typeName := "int16", count := some 3 },
        { name := some "needle", memberName := some "needle", typeName := "Vector3D"
          count := some 2 },
        { name := some "unit", memberName := some "unit", typeName := "GaugeUnit" },
        { name := some "flags", memberName := some "flags", typeName := "GaugeFlags" },
        { typeName := "pad", size := some 1 },
        { name := some "serial", memberName := some "serial", typeName := "uint32"
          order := some .little }]
      size := 46 },
    .struct {
      name := "Panel"
      fields := [
        { name := some "label", memberName := some "label", typeName := "TagString" },
        { name := some "gauges", memberName := some "gauges", typeName := "TagReflexive"
          struct := some "Gauge" },
        { name := some "face", memberName := some "face", typeName := "TagDependency"
          classes := ["bitmap"] }]
      size := 64 }] }]

theorem analyze_sizes_gauges :
    ∃ analysis, analyze gauges = .ok analysis ∧
      ∃ gauge ∈ analysis.schema.structs, ∃ panel ∈ analysis.schema.structs,
        gauge.name = "Gauge" ∧ panel.name = "Panel" ∧ gauge.InRange ∧ panel.InRange ∧ ∀ form,
          AssertionHolds gauge form ∧
          DefinesSize (layout panel form) (form.layoutName "Panel") 60 ∧
          AssertsSize (layout panel form) (form.layoutName "Panel") 64 ∧
          ¬ AssertionHolds panel form := by
  obtain ⟨analysis, accepted, gauge, hgauge, panel, hpanel, name, name', small, small', sizes,
      sizes'⟩ : ∃ analysis, analyze gauges = .ok analysis ∧
        ∃ gauge ∈ analysis.schema.structs, ∃ panel ∈ analysis.schema.structs,
          gauge.name = "Gauge" ∧ panel.name = "Panel" ∧ gauge.extent = 46 ∧ panel.extent = 60 ∧
          (gauge.size = 46 ∧ gauge.computedSize = 46) ∧
          panel.size = 64 ∧ panel.computedSize = 60 :=
    ⟨_, rfl, _, .head _, _, .tail _ (.head _), rfl, rfl, rfl, rfl, ⟨rfl, rfl⟩, rfl, rfl⟩
  have inRange : gauge.InRange := by rw [ClassifiedStruct.InRange, small]; decide
  have inRange' : panel.InRange := by rw [ClassifiedStruct.InRange, small']; decide
  -- The gauge declares the size that it has; the panel declares four bytes more.
  refine ⟨analysis, accepted, gauge, hgauge, panel, hpanel, name, name', inRange, inRange',
    fun form => ?_⟩
  obtain ⟨-, holds⟩ := (analyze_sizes accepted hgauge).1 inRange
  obtain ⟨agree, fails⟩ := (analyze_sizes accepted hpanel).1 inRange'
  refine ⟨(holds form).1.mpr (by omega), ?_, ?_, fun h => ?_⟩
  · exact name' ▸ (agree.defined form 60).mpr sizes'.2.symm
  · exact name' ▸ (agree.asserted form 64).mpr sizes'.1.symm
  · have := (fails form).1.mp h
    omega

end TagSchema
