import TagSchema.Proofs.Schema.Naming
import TagSchema.Proofs.Schema.Placement

/-!
# Which names collide

Padding is named after its offset, and every field takes some bytes, so no two stretches of padding
have one name unless the offsets wrap around (`Placed.notFiller`). Every other field is checked
against the fields before it. What is left is that padding gets the name of an earlier field that is
called like padding: that is not checked, and in a struct of which a word can hold the size it is
the only way in which two fields have one name.

The constants of options are not checked at all. Two of them are the same exactly when the names
have the same word.
-/

namespace TagSchema

/-- The field has the name of padding at its offset. -/
def ClassifiedField.IsFiller (field : ClassifiedField) : Prop :=
  field.identifier = "_padding_" ++ Text.hex field.offset

/-- The word that the constant of an option is made of. -/
def OptionRecord.word (record : OptionRecord) : List Char :=
  Names.word (record.detail.memberName.getD record.detail.name)

/-! ### Fields -/

/-- Of two fields with one identifier the second is padding. -/
theorem Placed.pairwise {schema : SchemaSet} {fields : List ResolvedField}
    {placed : List ClassifiedField} {offset : Nat} (h : Placed schema fields placed offset) :
    placed.Pairwise fun f g => f.identifier = g.identifier → g.IsFiller := by
  induction h with
  | nil => exact .nil
  | @snoc fields placed offset field kind inherited before fits ih =>
    refine List.pairwise_append.mpr ⟨ih, List.pairwise_singleton _ _, fun f hf g hg same => ?_⟩
    obtain rfl := List.mem_singleton.mp hg
    cases isPadding : field.record.isPadding with
    | false =>
      have own : (field.placed offset inherited kind).identifier = field.identifier := by
        simp [ResolvedField.placed, isPadding]
      exact absurd (List.mem_map.mpr ⟨f, hf, same.trans own⟩) (fits.fresh isPadding)
    | true => simp [ClassifiedField.IsFiller, ResolvedField.placed, isPadding]

/-- Two stretches of padding have one name only if the offsets wrap around. -/
theorem Placed.notFiller {schema : SchemaSet} (solid : schema.IsSolid) {fields : List ResolvedField}
    {placed : List ClassifiedField} {offset : Nat} (h : Placed schema fields placed offset)
    (padding : ∀ f ∈ fields, f.record.isPadding = true → 0 < f.record.size.getD 0)
    (inRange : (placed.map (·.kind.extent)).sum < UInt64.size) :
    placed.Pairwise fun f g => f.identifier = g.identifier → g.IsFiller → ¬ f.IsFiller := by
  obtain ⟨-, within, apart⟩ := h.apart inRange
  have positive : ∀ f ∈ placed, 0 < f.size := by
    intro f hf
    obtain ⟨field, hfield, coherent, rule, -⟩ := exists_mem_of_forall₂ h.each hf
    rw [(within f hf).1]
    exact rule.extent_pos solid coherent (padding field hfield)
  refine apart.imp_of_mem fun {f g} hf _ stops same filler filler' => ?_
  -- Each is named after its offset, and the second starts where the first stops at the earliest.
  have hex : Text.hex f.offset = Text.hex g.offset := by
    simpa using filler'.symm.trans (same.trans filler)
  have := Text.hex_inj.mp hex
  have := positive f hf
  omega

/-! ### Options -/

/-- The constants of a list of options differ exactly when their words do. -/
theorem Resolve.nodup_constants_iff {constantPrefix : String} {records : List OptionRecord} :
    ((options constantPrefix records).map (·.constant)).Nodup ↔
      (records.map (·.word)).Nodup := by
  have constants : (options constantPrefix records).map (·.constant) =
      records.map fun record => Names.optionConstant constantPrefix
        (record.detail.memberName.getD record.detail.name) :=
    List.ext_getElem (by simp [options]) (by simp [options, option])
  rw [constants, List.Nodup, List.Nodup, List.pairwise_map, List.pairwise_map]
  exact List.Pairwise.iff fun _ _ => not_congr Names.optionConstant_inj

/-! ### Accepted schemas -/

/-- **Which names collide.** Of two fields of an accepted struct with one identifier the second is
padding, and the first is not as long as a word can hold the size of the struct. The constants of an
accepted enum or bitfield collide exactly when the words of its options do. -/
theorem analyze_collisions {groups : List DefinitionGroup} {analysis : Analysis}
    (accepted : analyze groups = .ok analysis) :
    (∀ s ∈ analysis.schema.structs, s.fields.Pairwise fun f g =>
      f.identifier = g.identifier → g.IsFiller ∧ (s.InRange → ¬ f.IsFiller)) ∧
    (∀ e ∈ analysis.schema.enums, ∃ record ∈ groups.flatMap (·.enums), record.name = e.name ∧
      ((e.options.map (·.constant)).Nodup ↔ (record.options.map (·.word)).Nodup)) ∧
    ∀ b ∈ analysis.schema.bitfields, ∃ record ∈ groups.flatMap (·.bitfields),
      record.name = b.name ∧
      ((b.flags.map (·.constant)).Nodup ↔ (record.fields.map (·.word)).Nodup) := by
  have whole := Analysis.isOf accepted
  have records := whole.resolvedFrom
  refine ⟨fun c hc => ?_, fun e he => ?_, fun b hb => ?_⟩
  · obtain ⟨s, hs, classified⟩ := whole.exists_struct hc
    obtain ⟨chain, up, placed⟩ := whole.placed hs classified
    have padding : ∀ f ∈ chain.flatMap (·.fields), f.record.isPadding = true →
        0 < f.record.size.getD 0 := by
      intro f hf
      obtain ⟨ancestor, hancestor, hf⟩ := List.mem_flatMap.mp hf
      exact records.isSolid.padding ancestor (up.subset_structs hs hancestor) f hf
    -- Only in range do the offsets of two paddings have to differ.
    by_cases inRange : c.InRange
    · have apart := placed.notFiller records.isSolid padding inRange
      refine (placed.pairwise.and apart).imp fun ⟨fills, other⟩ same => ?_
      exact ⟨fills same, fun _ => other same (fills same)⟩
    · exact placed.pairwise.imp fun fills same => ⟨fills same, fun h => absurd h inRange⟩
  · rw [whole.enums] at he
    obtain ⟨record, hrecord, group, resolved⟩ := exists_mem_of_forall₂ records.enums he
    obtain ⟨name, -, -, options⟩ := Resolve.enum_eq_ok resolved
    exact ⟨record, hrecord, name.symm, options ▸ Resolve.nodup_constants_iff⟩
  · rw [whole.bitfields] at hb
    obtain ⟨record, hrecord, group, resolved⟩ := exists_mem_of_forall₂ records.bitfields hb
    obtain ⟨name, -, -, flags⟩ := Resolve.bitfield_eq_ok resolved
    exact ⟨record, hrecord, name.symm, flags ▸ Resolve.nodup_constants_iff⟩

/-- A field that is called like the padding behind it, and options that differ in what constants do
not have. -/
def lookalikes : List DefinitionGroup := [{
  name := "lookalikes"
  definitions := [
    .enum { name := "View", options := [.bare "first person", .bare "first-person"] },
    .bitfield { name := "Mark", width := 8, fields := [.bare "on", .bare "On"] },
    .struct {
      name := "Thing"
      fields := [
        { name := some "_padding_0x4", memberName := some "_padding_0x4", typeName := "float" },
        { typeName := "pad", size := some 4 }]
      size := 8 }] }]

theorem analyze_collisions_lookalikes :
    ∃ analysis, analyze lookalikes = .ok analysis ∧
      ∃ s ∈ analysis.schema.structs, s.name = "Thing" ∧ s.fields.length = 2 ∧ s.InRange ∧
        s.fields.Pairwise fun f g =>
          f.identifier = g.identifier → g.IsFiller ∧ (s.InRange → ¬ f.IsFiller) := by
  obtain ⟨analysis, accepted, s, hs, name, length, extent⟩ : ∃ analysis,
      analyze lookalikes = .ok analysis ∧ ∃ s ∈ analysis.schema.structs,
        s.name = "Thing" ∧ s.fields.length = 2 ∧ s.extent = 8 :=
    ⟨_, rfl, _, .head _, rfl, rfl, rfl⟩
  have inRange : s.InRange := by rw [ClassifiedStruct.InRange, extent]; decide
  obtain ⟨fields, -, -⟩ := analyze_collisions accepted
  exact ⟨analysis, accepted, s, hs, name, length, inRange, fields s hs⟩

theorem analyze_collides :
    ∃ analysis, analyze lookalikes = .ok analysis ∧
      (∃ s ∈ analysis.schema.structs, ¬ (s.fields.map (·.identifier)).Nodup) ∧
      (∃ e ∈ analysis.schema.enums, ¬ (e.options.map (·.constant)).Nodup) ∧
      ∃ b ∈ analysis.schema.bitfields, ¬ (b.flags.map (·.constant)).Nodup := by
  refine ⟨_, rfl, ⟨_, .head _, ?_⟩, ⟨_, .head _, ?_⟩, ⟨_, .head _, ?_⟩⟩
  · decide
  · exact mt Resolve.nodup_constants_iff.mp (by decide)
  · exact mt Resolve.nodup_constants_iff.mp (by decide)

end TagSchema
