import TagSchema.Proofs.Schema.FieldRules
import TagSchema.Proofs.Schema.Inheritance
import TagSchema.Schema.Analysis

/-!
# Fields at their places

Classifying a struct puts the fields of its chain of inheritance one behind the other, each with the
kind that the rules give it and under an identifier that no earlier field has. That is what `Placed`
says of the fields of a struct, whatever struct they were classified for.
-/

namespace TagSchema

/-- A field at an offset. -/
def ResolvedField.placed (field : ResolvedField) (offset : Nat) (inherited : Bool)
    (kind : FieldKind) : ClassifiedField where
  displayName := field.displayName
  identifier :=
    if field.record.isPadding then "_padding_" ++ Text.hex offset else field.identifier
  offset
  order := field.record.order
  kind
  inherited
  cacheOnly := field.record.cacheOnly
  unused := field.record.unused
  hidden := field.record.hidden
  readOnly := field.readOnly
  volatile := field.record.volatile
  comment := field.record.comment
  unit := field.record.unit

/-- A field may follow others: it is coherent, the rules give it a kind, and unless it is padding,
none of the others has its identifier. -/
structure ResolvedField.Fits (schema : SchemaSet) (placed : List ClassifiedField)
    (field : ResolvedField) (kind : FieldKind) : Prop where
  coherent : field.record.IsCoherent
  rule : HasKind schema field kind
  fresh : field.record.isPadding = false → field.identifier ∉ placed.map (·.identifier)

/-- Some fields one behind the other, with the offset after the last of them. -/
inductive Placed (schema : SchemaSet) : List ResolvedField → List ClassifiedField → Nat → Prop
  | nil : Placed schema [] [] 0
  | snoc {fields : List ResolvedField} {placed : List ClassifiedField} {offset : Nat}
      {field : ResolvedField} {kind : FieldKind} {inherited : Bool}
      (before : Placed schema fields placed offset) (fits : field.Fits schema placed kind) :
      Placed schema (fields ++ [field]) (placed ++ [field.placed offset inherited kind])
        (Size.add offset kind.size)

/-- Each field is placed with the kind that the rules give it. -/
theorem Placed.each {schema : SchemaSet} {fields : List ResolvedField}
    {placed : List ClassifiedField} {offset : Nat} (h : Placed schema fields placed offset) :
    List.Forall₂ (fun field f => field.record.IsCoherent ∧ HasKind schema field f.kind ∧
      f = field.placed f.offset f.inherited f.kind) fields placed := by
  induction h with
  | nil => exact .nil
  | snoc before fits ih => exact List.rel_append ih (.cons ⟨fits.coherent, fits.rule, rfl⟩ .nil)

/-- As long as no sum is too large, the offset is the sum of all sizes, and each field stops before
the next one starts. -/
theorem Placed.apart {schema : SchemaSet} {fields : List ResolvedField}
    {placed : List ClassifiedField} {offset : Nat} (h : Placed schema fields placed offset)
    (inRange : (placed.map (·.kind.extent)).sum < UInt64.size) :
    offset = (placed.map (·.kind.extent)).sum ∧
      (∀ f ∈ placed, f.size = f.kind.extent ∧ f.offset + f.size ≤ offset) ∧
      placed.Pairwise fun f g => f.offset + f.size ≤ g.offset := by
  -- In range, each sum of words is the sum of all before it and so no smaller than any of them.
  induction h with
  | nil => exact ⟨rfl, by simp, .nil⟩
  | @snoc fields placed offset field kind inherited before fits ih =>
    rw [List.map_append, List.sum_append, List.map_singleton, List.sum_singleton] at inRange ⊢
    obtain ⟨total, within, apart⟩ := ih (Nat.lt_of_le_of_lt (Nat.le_add_right ..) inRange)
    change _ + kind.extent < UInt64.size at inRange
    have size : kind.size = kind.extent :=
      FieldKind.size_eq_extent (Nat.lt_of_le_of_lt (Nat.le_add_left ..) inRange)
    have stop : Size.add offset kind.size = offset + kind.size :=
      Size.add_of_lt (by rwa [total, size])
    rw [stop]
    refine ⟨by rw [total, size]; rfl, fun f hf => ?_, List.pairwise_append.mpr
      ⟨apart, List.pairwise_singleton _ _, fun f hf g hg => ?_⟩⟩
    · obtain earlier | last := List.mem_append.mp hf
      · exact ⟨(within f earlier).1, (within f earlier).2.trans (Nat.le_add_right ..)⟩
      · obtain rfl := List.mem_singleton.mp last
        exact ⟨size, Nat.le_refl _⟩
    · obtain rfl := List.mem_singleton.mp hg
      exact (within f hf).2

namespace Classify

variable {schema : SchemaSet} {owner : String} {inherited : Bool} {progress progress' : Progress}

/-! ### One field -/

/-- The fields with one more behind them. -/
def Progress.place (progress : Progress) (inherited : Bool) (field : ResolvedField)
    (kind : FieldKind) : Progress :=
  { progress with
    fields := progress.fields ++ [field.placed progress.offset inherited kind]
    offset := Size.add progress.offset kind.size }

/-- A field is added exactly when it fits. -/
theorem addField_eq_ok_iff {field : ResolvedField} :
    addField schema owner inherited progress field = .ok progress' ↔
      ∃ kind, field.Fits schema progress.fields kind ∧
        progress' = progress.place inherited field kind := by
  unfold addField
  rw [Except.bind_eq_ok_iff]
  refine exists_congr fun kind => ?_
  have fresh : (!field.record.isPadding &&
      progress.fields.any (·.identifier = field.identifier)) = false ↔
      (field.record.isPadding = false →
        field.identifier ∉ progress.fields.map (·.identifier)) := by
    cases field.record.isPadding <;> simp
  simp only [fieldKind_eq_ok_iff, failWhen_bind_eq_ok, fresh]
  constructor
  · rintro ⟨⟨coherent, rule⟩, fresh, h⟩
    cases h
    exact ⟨⟨coherent, rule, fresh⟩, rfl⟩
  · rintro ⟨⟨coherent, rule, fresh⟩, rfl⟩
    exact ⟨⟨coherent, rule⟩, fresh, rfl⟩

/-! ### Many fields -/

/-- The fields of one struct are put behind those before them, in their order. -/
theorem addFields_eq_ok {fields : List ResolvedField}
    (h : fields.foldlM (addField schema owner inherited) progress = .ok progress') :
    progress'.title = progress.title ∧
      ∃ own, progress'.fields = progress.fields ++ own ∧
        List.Forall₂ (fun field f => ∃ kind, f = field.placed f.offset inherited kind) fields own ∧
        ∀ before, Placed schema before progress.fields progress.offset →
          Placed schema (before ++ fields) progress'.fields progress'.offset := by
  induction fields generalizing progress with
  | nil =>
    cases h
    exact ⟨rfl, [], (List.append_nil _).symm, .nil, fun before placed => by simpa using placed⟩
  | cons field rest ih =>
    rw [List.foldlM_cons] at h
    obtain ⟨next, added, h⟩ := Except.bind_eq_ok h
    obtain ⟨kind, fits, rfl⟩ := addField_eq_ok_iff.mp added
    obtain ⟨title, own, appended, each, run⟩ := ih h
    refine ⟨title, field.placed progress.offset inherited kind :: own, ?_, ?_, ?_⟩
    · rw [appended, Progress.place, List.append_assoc, List.singleton_append]
    · exact .cons ⟨kind, rfl⟩ each
    · intro before placed
      simpa using run (before ++ [field]) (placed.snoc fits)

/-- The title is the identifier of a field that can be a title. -/
def Progress.Titled (progress : Progress) : Prop :=
  ∀ title ∈ progress.title, ∃ f ∈ progress.fields, f.identifier = title ∧ canTitle f.kind = true

theorem titleField_eq_ok {title identifier : String} {fields : List ClassifiedField}
    (h : titleField owner title fields = .ok identifier) :
    ∃ f ∈ fields, f.identifier = identifier ∧ canTitle f.kind = true := by
  unfold titleField at h
  dsimp only at h
  split at h
  · cases h
  · rename_i f found
    split at h
    · rename_i fits
      cases h
      exact ⟨f, List.mem_of_find?_eq_some found, rfl, fits⟩
    · cases h

/-- One struct of the chain keeps the fields in place and the title among them. -/
theorem addAncestor_eq_ok {ancestor : ResolvedStruct}
    (h : addAncestor schema owner progress ancestor = .ok progress') :
    ∃ own, progress'.fields = progress.fields ++ own ∧
      List.Forall₂ (fun field f => ∃ kind,
        f = field.placed f.offset (decide (ancestor.name ≠ owner)) kind) ancestor.fields own ∧
      (ancestor.title = none → progress'.title = progress.title) ∧
      (progress.Titled → progress'.Titled) ∧
      ∀ before, Placed schema before progress.fields progress.offset →
        Placed schema (before ++ ancestor.fields) progress'.fields progress'.offset := by
  obtain ⟨middle, added, h⟩ := Except.bind_eq_ok h
  obtain ⟨kept, own, appended, each, run⟩ := addFields_eq_ok added
  cases title : ancestor.title with
  | none =>
    rw [title] at h
    cases h
    refine ⟨own, appended, each, fun _ => kept, fun titled t ht => ?_, run⟩
    obtain ⟨f, hf, fits⟩ := titled t (kept ▸ ht)
    exact ⟨f, appended ▸ List.mem_append_left own hf, fits⟩
  | some title =>
    rw [title] at h
    obtain ⟨identifier, found, h⟩ := Except.bind_eq_ok h
    cases h
    refine ⟨own, appended, each, nofun, fun _ t ht => ?_, run⟩
    cases ht
    exact titleField_eq_ok found

/-- The structs of a chain, one after the other. -/
theorem addAncestors_eq_ok {chain : List ResolvedStruct}
    (h : chain.foldlM (addAncestor schema owner) progress = .ok progress') :
    (progress.Titled → progress'.Titled) ∧
      ∀ before, Placed schema before progress.fields progress.offset →
        Placed schema (before ++ chain.flatMap (·.fields)) progress'.fields progress'.offset := by
  induction chain generalizing progress with
  | nil =>
    cases h
    exact ⟨id, fun before placed => by simpa using placed⟩
  | cons ancestor rest ih =>
    rw [List.foldlM_cons] at h
    obtain ⟨next, added, h⟩ := Except.bind_eq_ok h
    obtain ⟨-, -, -, -, titled, run⟩ := addAncestor_eq_ok added
    obtain ⟨titled', run'⟩ := ih h
    refine ⟨titled' ∘ titled, fun before placed => ?_⟩
    simpa using run' _ (run before placed)

/-! ### Structs -/

/-- A struct is what the structs of its chain add up to. -/
theorem struct_run {s : ResolvedStruct} {c : ClassifiedStruct} (h : struct schema s = .ok c) :
    ∃ chain progress, schema.lineage s.name = .ok chain ∧
      chain.foldlM (addAncestor schema s.name) {} = .ok progress ∧
      c = { name := s.name, group := s.group, inherits := s.inherits, fields := progress.fields
            size := s.size, computedSize := progress.offset, title := progress.title } := by
  obtain ⟨chain, ancestors, h⟩ := Except.bind_eq_ok h
  obtain ⟨progress, run, h⟩ := Except.bind_eq_ok h
  cases h
  exact ⟨chain, progress, ancestors, run, rfl⟩

/-- What classifying a struct gives. -/
theorem struct_eq_ok {s : ResolvedStruct} {c : ClassifiedStruct} (h : struct schema s = .ok c) :
    ∃ chain, schema.lineage s.name = .ok chain ∧
      c.name = s.name ∧ c.inherits = s.inherits ∧
      Placed schema (chain.flatMap (·.fields)) c.fields c.computedSize ∧
      ∀ title ∈ c.title, ∃ f ∈ c.fields, f.identifier = title ∧ canTitle f.kind = true := by
  obtain ⟨chain, progress, ancestors, run, rfl⟩ := struct_run h
  obtain ⟨titled, placed⟩ := addAncestors_eq_ok run
  exact ⟨chain, ancestors, rfl, rfl, placed [] .nil, titled nofun⟩

end Classify

/-! ### Whole schemas -/

/-- An analysis with the schema, the order and the structs that it was put together from. -/
structure Analysis.IsOf (groups : List DefinitionGroup) (analysis : Analysis) : Prop where
  resolved : SchemaSet.resolve groups = .ok analysis.set
  ordered : emissionOrder analysis.set = .ok analysis.order
  unresolved : analysis.unresolved = LayoutGraph.unresolvedReferences analysis.set
  enums : analysis.schema.enums = analysis.set.enums
  bitfields : analysis.schema.bitfields = analysis.set.bitfields
  structs : List.Forall₂ (fun s c => Classify.struct analysis.set s = .ok c)
    (analysis.order.filterMap analysis.set.struct?) analysis.schema.structs

theorem Analysis.isOf {groups : List DefinitionGroup} {analysis : Analysis}
    (h : analyze groups = .ok analysis) : analysis.IsOf groups := by
  obtain ⟨set, resolved, h⟩ := Except.bind_eq_ok h
  obtain ⟨order, ordered, h⟩ := Except.bind_eq_ok h
  obtain ⟨schema, classified, h⟩ := Except.bind_eq_ok h
  cases h
  obtain ⟨structs, each, h⟩ := Except.bind_eq_ok classified
  cases h
  exact ⟨resolved, ordered, rfl, rfl, rfl, Except.forall₂_of_mapM each⟩

namespace Analysis.IsOf

variable {groups : List DefinitionGroup} {analysis : Analysis} (whole : analysis.IsOf groups)
include whole

theorem resolvedFrom : analysis.set.ResolvedFrom groups := SchemaSet.resolvedFrom whole.resolved

theorem nodup_names : (analysis.set.structs.map (·.name)).Nodup :=
  SchemaSet.nodup_names_of_resolve whole.resolved

/-- Every struct is in the order, and nothing else is. -/
theorem mem_order {name : String} :
    name ∈ analysis.order ↔ name ∈ analysis.set.structs.map (·.name) := by
  obtain ⟨legal, complete⟩ := SchemaSet.legal_of_emissionOrder whole.ordered
  exact ⟨fun h => LayoutGraph.names_build ▸ legal.defined h, complete name⟩

/-- What was classified is a struct of the schema. -/
theorem exists_struct {c : ClassifiedStruct} (hc : c ∈ analysis.schema.structs) :
    ∃ s ∈ analysis.set.structs, Classify.struct analysis.set s = .ok c := by
  obtain ⟨s, hs, classified⟩ := exists_mem_of_forall₂ whole.structs hc
  obtain ⟨name, -, found⟩ := List.mem_filterMap.mp hs
  exact ⟨s, (SchemaSet.struct?_eq_some found).1, classified⟩

/-- Every struct of the schema was classified. -/
theorem exists_classified {s : ResolvedStruct} (hs : s ∈ analysis.set.structs) :
    ∃ c ∈ analysis.schema.structs, Classify.struct analysis.set s = .ok c := by
  refine exists_mem_of_forall₂ whole.structs.flip (List.mem_filterMap.mpr ⟨s.name, ?_, ?_⟩)
  · exact whole.mem_order.mpr (List.mem_map_of_mem hs)
  · exact SchemaSet.struct?_of_mem whole.nodup_names hs

/-- The structs are classified in the order, under their names. -/
theorem names_structs : analysis.schema.structs.map (·.name) = analysis.order := by
  have kept : analysis.schema.structs.map (·.name) =
      (analysis.order.filterMap analysis.set.struct?).map (·.name) := by
    refine List.forall₂_eq_eq_eq ▸
      List.forall₂_map_left_iff.mpr (List.forall₂_map_right_iff.mpr ?_)
    refine whole.structs.flip.imp fun c s classified => ?_
    obtain ⟨-, -, name, -⟩ := Classify.struct_eq_ok classified
    exact name
  have found : ∀ name ∈ analysis.order,
      (analysis.set.struct? name).map (·.name) = some name := by
    intro name h
    obtain ⟨s, hs, rfl⟩ := List.mem_map.mp (whole.mem_order.mp h)
    rw [SchemaSet.struct?_of_mem whole.nodup_names hs]
    rfl
  rw [kept, List.map_filterMap, List.filterMap_congr found, List.filterMap_some]

/-- The classified structs are those of the schema, each once. -/
theorem names_perm :
    (analysis.schema.structs.map (·.name)).Nodup ∧
      (analysis.schema.structs.map (·.name)).Perm (analysis.set.structs.map (·.name)) := by
  obtain ⟨legal, -⟩ := SchemaSet.legal_of_emissionOrder whole.ordered
  rw [whole.names_structs]
  exact ⟨legal.nodup, (List.perm_ext_iff_of_nodup legal.nodup whole.nodup_names).mpr
    fun _ => whole.mem_order⟩

/-- A struct of the schema was classified with the fields of its chain. -/
theorem placed {s : ResolvedStruct} (hs : s ∈ analysis.set.structs) {c : ClassifiedStruct}
    (classified : Classify.struct analysis.set s = .ok c) :
    ∃ chain, analysis.set.Chain s chain ∧
      Placed analysis.set (chain.flatMap (·.fields)) c.fields c.computedSize := by
  obtain ⟨chain, ancestors, -, -, placed, -⟩ := Classify.struct_eq_ok classified
  have found := SchemaSet.struct?_of_mem whole.nodup_names hs
  exact ⟨chain, (SchemaSet.lineage_eq_ok found ancestors).1, placed⟩

end Analysis.IsOf

end TagSchema
