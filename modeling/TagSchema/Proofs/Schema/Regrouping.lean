import TagSchema.Proofs.Schema.Closedness
import TagSchema.Proofs.Schema.Labels

/-!
# How definitions are grouped

A schema may be split into groups in any way. The groups are resolved one after the other, each with
its enums before its bitfields and these before its structs, and a name that comes again is noticed
when its group is reached. A group of the definitions of two groups is resolved exactly if these
are, one after the other (`Resolve.addGroup_append`), and to the same schema but for the labels. So
any groups amount to one group of all their definitions (`SchemaSet.resolve_merge`).
-/

namespace TagSchema

/-- One group of the definitions of all groups, in order. -/
def DefinitionGroup.merge (groups : List DefinitionGroup) : DefinitionGroup where
  name := ""
  definitions := groups.flatMap (·.definitions)

/-- The definitions of two schemas, one after the other. -/
def SchemaSet.append (schema more : SchemaSet) : SchemaSet where
  enums := schema.enums ++ more.enums
  bitfields := schema.bitfields ++ more.bitfields
  structs := schema.structs ++ more.structs

namespace SchemaSet

theorem append_assoc (schema more last : SchemaSet) :
    (schema.append more).append last = schema.append (more.append last) := by
  simp only [append, List.append_assoc]

theorem append_empty (schema : SchemaSet) : schema.append {} = schema := by
  simp only [append, List.append_nil]

/-- Groups are forgotten record by record. -/
theorem withoutGroups_append (schema more : SchemaSet) :
    (schema.append more).withoutGroups = schema.withoutGroups.append more.withoutGroups := by
  simp only [append, withoutGroups, List.map_append]

end SchemaSet

namespace Resolve

/-! ### Single records -/

/-- The group is all that resolving an enum takes from it. -/
theorem enum_withoutGroup (group : String) (record : EnumRecord) :
    enum "" record = (enum group record).map (·.withoutGroup) := by
  rw [enum, enum]
  cases checkWidth record.name (record.width.getD defaultEnumWidth) record.options.length
    (1 <<< record.width.getD defaultEnumWidth) <;> rfl

/-- So it is for a bitfield. -/
theorem bitfield_withoutGroup (group : String) (record : BitfieldRecord) :
    bitfield "" record = (bitfield group record).map (·.withoutGroup) := by
  rw [bitfield, bitfield]
  cases checkWidth record.name record.width record.fields.length record.width <;> rfl

/-- And so it is for a struct. -/
theorem struct_withoutGroup (group : String) (record : StructRecord) :
    struct "" record = (struct group record).map (·.withoutGroup) := by
  rw [struct, struct]
  cases fields record [] 0 record.fields <;> rfl

/-! ### Single groups -/

/-- What the definitions of a group are resolved to. -/
structure Gives (group : DefinitionGroup) (part : SchemaSet) : Prop where
  enums : group.enums.mapM (enum group.name) = .ok part.enums
  bitfields : group.bitfields.mapM (bitfield group.name) = .ok part.bitfields
  structs : group.structs.mapM (struct group.name) = .ok part.structs

variable {seen seen' : List String} {schema schema' : SchemaSet} {group : DefinitionGroup}

/-- A group is added if its names are new and it can be resolved by itself. -/
theorem addGroup_eq_ok_iff : addGroup seen schema group = .ok (seen', schema') ↔
    defineNames seen group.definitions = .ok seen' ∧
      ∃ part, Gives group part ∧ schema.append part = schema' := by
  constructor
  · intro h
    obtain ⟨grown, names, h⟩ := Except.bind_eq_ok h
    obtain ⟨enums, henums, h⟩ := Except.bind_eq_ok h
    obtain ⟨bitfields, hbitfields, h⟩ := Except.bind_eq_ok h
    obtain ⟨structs, hstructs, h⟩ := Except.bind_eq_ok h
    cases h
    exact ⟨names, ⟨enums, bitfields, structs⟩, ⟨henums, hbitfields, hstructs⟩, rfl⟩
  · rintro ⟨names, part, ⟨enums, bitfields, structs⟩, rfl⟩
    rw [addGroup, names, enums, bitfields, structs]
    rfl

/-- The label of a group stays with what it defines, and matters to nothing else. -/
theorem gives_withoutGroups (name : String) {definitions : List Definition} {part : SchemaSet} :
    Gives ⟨"", definitions⟩ part ↔
      ∃ labelled, Gives ⟨name, definitions⟩ labelled ∧ labelled.withoutGroups = part := by
  have enums := Except.mapM_map (enum_withoutGroup name)
  have bitfields := Except.mapM_map (bitfield_withoutGroup name)
  have structs := Except.mapM_map (struct_withoutGroup name)
  constructor
  · intro h
    obtain ⟨es, hes, es_eq⟩ := Except.map_eq_ok_iff.mp ((enums _).symm.trans h.enums)
    obtain ⟨bs, hbs, bs_eq⟩ := Except.map_eq_ok_iff.mp ((bitfields _).symm.trans h.bitfields)
    obtain ⟨ss, hss, ss_eq⟩ := Except.map_eq_ok_iff.mp ((structs _).symm.trans h.structs)
    refine ⟨⟨es, bs, ss⟩, ⟨hes, hbs, hss⟩, ?_⟩
    rw [SchemaSet.withoutGroups, es_eq, bs_eq, ss_eq]
  · rintro ⟨labelled, h, rfl⟩
    exact ⟨(enums _).trans (Except.map_eq_ok_iff.mpr ⟨_, h.enums, rfl⟩),
      (bitfields _).trans (Except.map_eq_ok_iff.mpr ⟨_, h.bitfields, rfl⟩),
      (structs _).trans (Except.map_eq_ok_iff.mpr ⟨_, h.structs, rfl⟩)⟩

/-! ### Groups one after the other -/

/-- Names are defined one after the other, wherever a group ends. -/
theorem defineNames_append (seen : List String) (first second : List Definition) :
    defineNames seen (first ++ second) =
      defineNames seen first >>= fun seen => defineNames seen second := by
  induction first generalizing seen with
  | nil => rfl
  | cons definition rest ih =>
    rw [List.cons_append, defineNames, defineNames]
    split
    · rfl
    · exact ih _

theorem mapM_append_eq_ok_iff {ε α β : Type} {f : α → Except ε β} {first second : List α}
    {results : List β} : (first ++ second).mapM f = .ok results ↔
      ∃ before, first.mapM f = .ok before ∧ ∃ after, second.mapM f = .ok after ∧
        before ++ after = results := by
  rw [List.mapM_append, Except.bind_eq_ok_iff]
  refine exists_congr fun before => and_congr_right fun _ => ?_
  rw [Except.bind_eq_ok_iff]
  exact exists_congr fun after => and_congr_right fun _ => ⟨Except.ok.inj, congrArg _⟩

/-- The parts that two groups give are together the part of the group of both. -/
theorem gives_append {name : String} {first second : List Definition} {part : SchemaSet} :
    Gives ⟨name, first ++ second⟩ part ↔
      ∃ before, Gives ⟨name, first⟩ before ∧ ∃ after, Gives ⟨name, second⟩ after ∧
        before.append after = part := by
  have enums : (⟨name, first ++ second⟩ : DefinitionGroup).enums =
      DefinitionGroup.enums ⟨name, first⟩ ++ DefinitionGroup.enums ⟨name, second⟩ :=
    List.filterMap_append
  have bitfields : (⟨name, first ++ second⟩ : DefinitionGroup).bitfields =
      DefinitionGroup.bitfields ⟨name, first⟩ ++ DefinitionGroup.bitfields ⟨name, second⟩ :=
    List.filterMap_append
  have structs : (⟨name, first ++ second⟩ : DefinitionGroup).structs =
      DefinitionGroup.structs ⟨name, first⟩ ++ DefinitionGroup.structs ⟨name, second⟩ :=
    List.filterMap_append
  -- The three kinds of records are resolved apart from each other, each in order.
  constructor
  · rintro ⟨henums, hbitfields, hstructs⟩
    obtain ⟨es, hes, es', hes', es_eq⟩ := mapM_append_eq_ok_iff.mp (enums ▸ henums)
    obtain ⟨bs, hbs, bs', hbs', bs_eq⟩ := mapM_append_eq_ok_iff.mp (bitfields ▸ hbitfields)
    obtain ⟨ss, hss, ss', hss', ss_eq⟩ := mapM_append_eq_ok_iff.mp (structs ▸ hstructs)
    refine ⟨⟨es, bs, ss⟩, ⟨hes, hbs, hss⟩, ⟨es', bs', ss'⟩, ⟨hes', hbs', hss'⟩, ?_⟩
    rw [SchemaSet.append, es_eq, bs_eq, ss_eq]
  · rintro ⟨before, h, after, h', rfl⟩
    exact ⟨enums ▸ mapM_append_eq_ok_iff.mpr ⟨_, h.enums, _, h'.enums, rfl⟩,
      bitfields ▸ mapM_append_eq_ok_iff.mpr ⟨_, h.bitfields, _, h'.bitfields, rfl⟩,
      structs ▸ mapM_append_eq_ok_iff.mpr ⟨_, h.structs, _, h'.structs, rfl⟩⟩

/-- A group is added as two groups that share its definitions would be. -/
theorem addGroup_append {name : String} {first second : List Definition} :
    addGroup seen schema ⟨name, first ++ second⟩ = .ok (seen', schema') ↔
      ∃ seenBetween between, addGroup seen schema ⟨name, first⟩ = .ok (seenBetween, between) ∧
        addGroup seenBetween between ⟨name, second⟩ = .ok (seen', schema') := by
  simp only [addGroup_eq_ok_iff, defineNames_append, Except.bind_eq_ok_iff]
  constructor
  · rintro ⟨⟨seenBetween, names, names'⟩, part, gives, rfl⟩
    obtain ⟨before, h, after, h', rfl⟩ := gives_append.mp gives
    exact ⟨seenBetween, _, ⟨names, before, h, rfl⟩, names', after, h', schema.append_assoc ..⟩
  · rintro ⟨seenBetween, _, ⟨names, before, h, rfl⟩, names', after, h', rfl⟩
    exact ⟨⟨seenBetween, names, names'⟩, _, gives_append.mpr ⟨before, h, after, h', rfl⟩,
      (schema.append_assoc ..).symm⟩

/-- A group without a label is added to a schema without labels as the labelled ones are. -/
theorem addGroup_withoutGroups {plain : SchemaSet} :
    addGroup seen schema.withoutGroups ⟨"", group.definitions⟩ = .ok (seen', plain) ↔
      ∃ schema', addGroup seen schema group = .ok (seen', schema') ∧
        schema'.withoutGroups = plain := by
  simp only [addGroup_eq_ok_iff]
  constructor
  · rintro ⟨names, part, gives, rfl⟩
    obtain ⟨labelled, h, rfl⟩ := (gives_withoutGroups group.name).mp gives
    exact ⟨_, ⟨names, labelled, h, rfl⟩, schema.withoutGroups_append labelled⟩
  · rintro ⟨_, ⟨names, labelled, h, rfl⟩, rfl⟩
    exact ⟨names, _, (gives_withoutGroups _).mpr ⟨labelled, h, rfl⟩,
      (schema.withoutGroups_append labelled).symm⟩

/-- Groups are added one after the other as one group of all their definitions would be. -/
theorem addGroup_merge {groups : List DefinitionGroup} {plain : SchemaSet} :
    addGroup seen schema.withoutGroups (.merge groups) = .ok (seen', plain) ↔
      ∃ schema', groups.foldlM (fun (seen, schema) group => addGroup seen schema group)
        (seen, schema) = .ok (seen', schema') ∧ schema'.withoutGroups = plain := by
  -- Merging adds the groups one by one to the same names and records, so both sides go on from
  -- where the first group ends.
  induction groups generalizing seen schema with
  | nil =>
    have nothing : addGroup seen schema.withoutGroups (.merge []) =
        .ok (seen, schema.withoutGroups) :=
      addGroup_eq_ok_iff.mpr ⟨rfl, {}, ⟨rfl, rfl, rfl⟩, SchemaSet.append_empty _⟩
    rw [nothing]
    constructor
    · intro h
      cases h
      exact ⟨schema, rfl, rfl⟩
    · rintro ⟨_, h, rfl⟩
      cases h
      rfl
  | cons group rest ih =>
    refine addGroup_append.trans ?_
    simp only [List.foldlM_cons, Except.bind_eq_ok_iff]
    constructor
    · rintro ⟨seenBetween, _, first, others⟩
      obtain ⟨between, added, rfl⟩ := addGroup_withoutGroups.mp first
      obtain ⟨schema', run, rfl⟩ := ih.mp others
      exact ⟨schema', ⟨(seenBetween, between), added, run⟩, rfl⟩
    · rintro ⟨schema', ⟨⟨seenBetween, between⟩, added, run⟩, rfl⟩
      exact ⟨seenBetween, between.withoutGroups, addGroup_withoutGroups.mpr ⟨between, added, rfl⟩,
        ih.mpr ⟨schema', run, rfl⟩⟩

end Resolve

/-! ### Whole schemas -/

namespace SchemaSet

variable {groups : List DefinitionGroup} {schema plain : SchemaSet}

theorem resolve_eq_ok_iff : SchemaSet.resolve groups = .ok schema ↔
    ∃ seen, groups.foldlM (fun (seen, schema) group => Resolve.addGroup seen schema group)
      (([] : List String), ({} : SchemaSet)) = .ok (seen, schema) := by
  rw [SchemaSet.resolve, Except.bind_eq_ok_iff]
  constructor
  · rintro ⟨⟨seen, found⟩, run, h⟩
    cases h
    exact ⟨seen, run⟩
  · rintro ⟨seen, run⟩
    exact ⟨(seen, schema), run, rfl⟩

/-- Any groups are resolved as one group of all their definitions is, but for the labels. -/
theorem resolve_merge : SchemaSet.resolve [.merge groups] = .ok plain ↔
    ∃ schema, SchemaSet.resolve groups = .ok schema ∧ schema.withoutGroups = plain := by
  have single : ∀ seen, [DefinitionGroup.merge groups].foldlM
        (fun (seen, schema) group => Resolve.addGroup seen schema group)
        (([] : List String), ({} : SchemaSet)) = .ok (seen, plain) ↔
      Resolve.addGroup [] (withoutGroups {}) (.merge groups) = .ok (seen, plain) := by
    intro seen
    simp only [List.foldlM_cons, List.foldlM_nil, bind_pure]
    rfl
  simp only [resolve_eq_ok_iff, single, Resolve.addGroup_merge]
  constructor
  · rintro ⟨seen, schema, run, same⟩
    exact ⟨schema, ⟨seen, run⟩, same⟩
  · rintro ⟨schema, ⟨seen, run⟩, same⟩
    exact ⟨seen, schema, run, same⟩

end SchemaSet

/-- The analysis without labels. -/
def Analysis.withoutGroups (analysis : Analysis) : Analysis :=
  { analysis with set := analysis.set.withoutGroups, schema := analysis.schema.withoutGroups }

/-- An analysis succeeds step by step, and each step looks only at what the steps before it have
found. -/
theorem analyze_eq_ok_iff {groups : List DefinitionGroup} {analysis : Analysis} :
    analyze groups = .ok analysis ↔
      SchemaSet.resolve groups = .ok analysis.set ∧
      emissionOrder analysis.set = .ok analysis.order ∧
      classify analysis.set analysis.order = .ok analysis.schema ∧
      LayoutGraph.unresolvedReferences analysis.set = analysis.unresolved := by
  simp only [analyze, Except.bind_eq_ok_iff]
  constructor
  · rintro ⟨set, resolved, order, ordered, schema, classified, h⟩
    cases h
    exact ⟨resolved, ordered, classified, rfl⟩
  · rintro ⟨resolved, ordered, classified, unresolved⟩
    refine ⟨_, resolved, _, ordered, _, classified, ?_⟩
    rw [unresolved]
    rfl

/-- Any groups are analyzed as one group of all their definitions is, but for the labels. -/
theorem analyze_merge {groups : List DefinitionGroup} {plain : Analysis} :
    analyze [.merge groups] = .ok plain ↔
      ∃ analysis, analyze groups = .ok analysis ∧ analysis.withoutGroups = plain := by
  simp only [analyze_eq_ok_iff, SchemaSet.resolve_merge]
  constructor
  · obtain ⟨set, order, unresolved, schema⟩ := plain
    dsimp only
    rintro ⟨⟨labelled, resolved, rfl⟩, ordered, classified, rfl⟩
    rw [classify_withoutGroups, Except.map_eq_ok_iff] at classified
    obtain ⟨labelledSchema, classified, rfl⟩ := classified
    rw [SchemaSet.emissionOrder_withoutGroups] at ordered
    refine ⟨⟨labelled, order, LayoutGraph.unresolvedReferences labelled, labelledSchema⟩,
      ⟨resolved, ordered, classified, rfl⟩, ?_⟩
    rw [Analysis.withoutGroups, SchemaSet.unresolvedReferences_withoutGroups]
  · rintro ⟨analysis, ⟨resolved, ordered, classified, unresolved⟩, rfl⟩
    refine ⟨⟨_, resolved, rfl⟩, ?_, ?_, ?_⟩
    · exact (SchemaSet.emissionOrder_withoutGroups _).trans ordered
    · exact (classify_withoutGroups _ _).trans (congrArg (Except.map _) classified)
    · exact (SchemaSet.unresolvedReferences_withoutGroups _).trans unresolved

/-- **How definitions are grouped does not matter.** If two lists of groups have the same
definitions, one is accepted exactly if the other is. The analyses then have the same order, the
same unresolved references and the same schema but for the labels of groups, and every target emits
the same text for both. -/
theorem analyze_regrouped {groups groups' : List DefinitionGroup}
    (same : groups.flatMap (·.definitions) = groups'.flatMap (·.definitions)) :
    ((∃ analysis, analyze groups = .ok analysis) ↔ ∃ analysis, analyze groups' = .ok analysis) ∧
    ∀ analysis analysis', analyze groups = .ok analysis → analyze groups' = .ok analysis' →
      analysis.order = analysis'.order ∧ analysis.unresolved = analysis'.unresolved ∧
      analysis.schema.withoutGroups = analysis'.schema.withoutGroups ∧
      ∀ (target : Emit.Target) (options : Emit.Options),
        target.emit analysis.schema options = target.emit analysis'.schema options := by
  -- Both groupings are compared with the one that has all definitions in a single group.
  have merged : DefinitionGroup.merge groups = .merge groups' :=
    congrArg (DefinitionGroup.mk "") same
  have accepts : ∀ groups : List DefinitionGroup, (∃ analysis, analyze groups = .ok analysis) ↔
      ∃ plain, analyze [.merge groups] = .ok plain := by
    intro groups
    simp only [analyze_merge, exists_comm (α := Analysis), exists_and_left, exists_eq',
      and_true]
  refine ⟨?_, fun analysis analysis' accepted accepted' => ?_⟩
  · rw [accepts groups, merged, ← accepts groups']
  · have plain := analyze_merge.mpr ⟨analysis, accepted, rfl⟩
    have plain' := analyze_merge.mpr ⟨analysis', accepted', rfl⟩
    rw [merged] at plain
    have alike : analysis.withoutGroups = analysis'.withoutGroups :=
      Except.ok.inj (plain.symm.trans plain')
    obtain ⟨-, order, unresolved, schemas⟩ := Analysis.mk.inj alike
    refine ⟨order, unresolved, schemas, fun target options => ?_⟩
    rw [← target.emit_withoutGroups, schemas, target.emit_withoutGroups]

/-- The turret of one group, split into three. -/
def turretInParts : List DefinitionGroup :=
  let definitions := turret.flatMap (·.definitions)
  [⟨"words", definitions.take 2⟩, ⟨"mounts", (definitions.drop 2).take 2⟩,
    ⟨"turrets", definitions.drop 4⟩]

/-- The split turret has other labels, and emits the same. -/
theorem analyze_regrouped_turret :
    ∃ whole parts, analyze turret = .ok whole ∧ analyze turretInParts = .ok parts ∧
      whole.schema.structs.map (·.group) = ["turret", "turret", "turret"] ∧
      parts.schema.structs.map (·.group) = ["mounts", "mounts", "turrets"] ∧
      whole.order = ["Barrel", "Mount", "Turret"] ∧ whole.order = parts.order ∧
      ∀ (target : Emit.Target) (options : Emit.Options),
        target.emit whole.schema options = target.emit parts.schema options := by
  obtain ⟨whole, parts, accepted, accepted', labels, labels', order⟩ :
      ∃ whole parts, analyze turret = .ok whole ∧ analyze turretInParts = .ok parts ∧
        whole.schema.structs.map (·.group) = ["turret", "turret", "turret"] ∧
        parts.schema.structs.map (·.group) = ["mounts", "mounts", "turrets"] ∧
        whole.order = ["Barrel", "Mount", "Turret"] := ⟨_, _, rfl, rfl, rfl, rfl, rfl⟩
  have same : turret.flatMap (·.definitions) = turretInParts.flatMap (·.definitions) := rfl
  obtain ⟨-, alike⟩ := analyze_regrouped same
  obtain ⟨sameOrder, -, -, text⟩ := alike whole parts accepted accepted'
  exact ⟨whole, parts, accepted, accepted', labels, labels', order, sameOrder, text⟩

end TagSchema
