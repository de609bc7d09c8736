import Mathlib.Data.List.Forall2
import TagSchema.Proofs.Schema.DefinedOnce

/-!
# What resolving gives

A resolved schema has one enum, bitfield or struct for each record, in load order
(`SchemaSet.resolvedFrom`). So what resolving a single record gives holds of everything in the
schema: names are kept, values take one, two or four bytes, and padding is not empty.
-/

namespace TagSchema

/-- The results of a list of computations belong to the inputs one by one. -/
theorem Except.forall₂_of_mapM {ε α β : Type} {f : α → Except ε β} {l : List α} {results : List β}
    (h : l.mapM f = .ok results) : List.Forall₂ (fun a b => f a = .ok b) l results := by
  induction l generalizing results with
  | nil =>
    cases h
    exact .nil
  | cons a rest ih =>
    rw [List.mapM_cons] at h
    obtain ⟨b, hb, h⟩ := Except.bind_eq_ok h
    obtain ⟨bs, hbs, h⟩ := Except.bind_eq_ok h
    cases h
    exact .cons hb (ih hbs)

/-- What is in the second of two lists that belong together belongs to something in the first. -/
theorem exists_mem_of_forall₂ {α β : Type} {R : α → β → Prop} {l : List α} {l' : List β} {b : β}
    (h : List.Forall₂ R l l') (hb : b ∈ l') : ∃ a ∈ l, R a b := by
  obtain ⟨i, hi, rfl⟩ := List.getElem_of_mem hb
  exact ⟨_, List.getElem_mem (h.length_eq ▸ hi), h.get (h.length_eq ▸ hi) hi⟩

namespace Resolve

variable {group : String}

/-! ### Single records -/

theorem checkWidth_eq_ok {name : String} {width count capacity : Nat}
    (h : checkWidth name width count capacity = .ok ()) :
    (width = 8 ∨ width = 16 ∨ width = 32) ∧ count ≤ capacity := by
  unfold checkWidth at h
  split at h
  · cases h
  · split at h
    · cases h
    · omega

/-- An enum keeps its name and has a width that can be stored. -/
theorem enum_eq_ok {record : EnumRecord} {e : ResolvedEnum} (h : enum group record = .ok e) :
    e.name = record.name ∧ e.width = record.width.getD defaultEnumWidth ∧
      (e.width = 8 ∨ e.width = 16 ∨ e.width = 32) ∧
      e.options = options (Names.constantPrefix record.name) record.options := by
  obtain ⟨⟨⟩, checked, h⟩ := Except.bind_eq_ok h
  cases h
  exact ⟨rfl, rfl, (checkWidth_eq_ok checked).1, rfl⟩

/-- A bitfield keeps its name and has a width that can be stored. -/
theorem bitfield_eq_ok {record : BitfieldRecord} {b : ResolvedBitfield}
    (h : bitfield group record = .ok b) :
    b.name = record.name ∧ b.width = record.width ∧
      (b.width = 8 ∨ b.width = 16 ∨ b.width = 32) ∧
      b.flags = options (Names.constantPrefix (record.name ++ "Flag")) record.fields := by
  obtain ⟨⟨⟩, checked, h⟩ := Except.bind_eq_ok h
  cases h
  exact ⟨rfl, rfl, (checkWidth_eq_ok checked).1, rfl⟩

/-- A field keeps its record, and padding takes some bytes. -/
theorem field_eq_ok {owner : StructRecord} {identifiers : List String} {position : Nat}
    {record : FieldRecord} {f : ResolvedField}
    (h : field owner identifiers position record = .ok f) :
    f.record = record ∧ (record.isPadding = true → 0 < record.size.getD 0) := by
  by_cases padding : record.isPadding = true
  · by_cases empty : record.size.getD 0 = 0
    · simp only [field, padding, empty, if_true] at h
      cases h
    · simp only [field, padding, empty, if_true, if_false] at h
      cases h
      exact ⟨rfl, fun _ => Nat.pos_of_ne_zero empty⟩
  · refine ⟨?_, fun h => absurd h padding⟩
    simp only [field, padding, Bool.false_eq_true, if_false] at h
    cases named : record.name with
    | none =>
      rw [named] at h
      cases h
    | some name =>
      rw [named] at h
      -- Two checks, and then the field.
      dsimp only at h
      repeat' split at h
      all_goals cases h
      rfl

theorem fields_eq_ok {owner : StructRecord} {identifiers : List String} {position : Nat}
    {records : List FieldRecord} {fs : List ResolvedField}
    (h : fields owner identifiers position records = .ok fs) :
    List.Forall₂ (fun record f => f.record = record ∧
      (record.isPadding = true → 0 < record.size.getD 0)) records fs := by
  induction records generalizing identifiers position fs with
  | nil =>
    cases h
    exact .nil
  | cons record rest ih =>
    obtain ⟨f, hf, h⟩ := Except.bind_eq_ok h
    obtain ⟨fs', hfs, h⟩ := Except.bind_eq_ok h
    cases h
    exact .cons (field_eq_ok hf) (ih hfs)

/-- A struct keeps its name, its parent and its title, and its padding takes some bytes. -/
theorem struct_eq_ok {record : StructRecord} {s : ResolvedStruct}
    (h : struct group record = .ok s) :
    s.name = record.name ∧ s.inherits = record.inherits ∧ s.title = record.title ∧
      s.fields.map (·.record) = record.fields ∧
      ∀ f ∈ s.fields, f.record.isPadding = true → 0 < f.record.size.getD 0 := by
  obtain ⟨fs, hfs, h⟩ := Except.bind_eq_ok h
  cases h
  have kept := fields_eq_ok hfs
  refine ⟨rfl, rfl, rfl, ?_, fun f hf => ?_⟩
  · exact List.forall₂_eq_eq_eq ▸
      List.forall₂_map_left_iff.mpr (kept.flip.imp fun _ _ both => both.1)
  · obtain ⟨record, -, same, positive⟩ := exists_mem_of_forall₂ kept hf
    rwa [same]

/-! ### All records -/

/-- Something was resolved from a record in some group. -/
def From {ρ α : Type} (resolve : String → ρ → Except SchemaError α) (record : ρ) (a : α) : Prop :=
  ∃ group, resolve group record = .ok a

theorem forall₂_from_of_mapM {ρ α : Type} {resolve : String → ρ → Except SchemaError α}
    {records : List ρ} {results : List α} (h : records.mapM (resolve group) = .ok results) :
    List.Forall₂ (From resolve) records results :=
  (Except.forall₂_of_mapM h).imp fun _ _ single => ⟨group, single⟩

end Resolve

/-- The enums, bitfields and structs of a schema belong to the records of some groups one by one. -/
structure SchemaSet.ResolvedFrom (groups : List DefinitionGroup) (schema : SchemaSet) : Prop where
  enums : List.Forall₂ (Resolve.From Resolve.enum) (groups.flatMap (·.enums)) schema.enums
  bitfields :
    List.Forall₂ (Resolve.From Resolve.bitfield) (groups.flatMap (·.bitfields)) schema.bitfields
  structs : List.Forall₂ (Resolve.From Resolve.struct) (groups.flatMap (·.structs)) schema.structs

/-- Values of enums and bitfields take a byte at least, and padding is not empty. -/
structure SchemaSet.IsSolid (schema : SchemaSet) : Prop where
  enums : ∀ e ∈ schema.enums, 8 ≤ e.width
  bitfields : ∀ b ∈ schema.bitfields, 8 ≤ b.width
  padding : ∀ s ∈ schema.structs, ∀ f ∈ s.fields,
    f.record.isPadding = true → 0 < f.record.size.getD 0

namespace SchemaSet

variable {groups : List DefinitionGroup} {schema : SchemaSet}

theorem enum?_eq_some {name : String} {e : ResolvedEnum} (h : schema.enum? name = some e) :
    e ∈ schema.enums ∧ e.name = name :=
  ⟨List.mem_of_find?_eq_some h, by simpa using List.find?_some h⟩

theorem bitfield?_eq_some {name : String} {b : ResolvedBitfield}
    (h : schema.bitfield? name = some b) : b ∈ schema.bitfields ∧ b.name = name :=
  ⟨List.mem_of_find?_eq_some h, by simpa using List.find?_some h⟩

theorem struct?_eq_some {name : String} {s : ResolvedStruct} (h : schema.struct? name = some s) :
    s ∈ schema.structs ∧ s.name = name :=
  ⟨List.mem_of_find?_eq_some h, by simpa using List.find?_some h⟩

theorem struct?_of_mem (nodup : (schema.structs.map (·.name)).Nodup) {s : ResolvedStruct}
    (h : s ∈ schema.structs) : schema.struct? s.name = some s := by
  obtain ⟨found, hfound⟩ : ∃ found, schema.struct? s.name = some found :=
    Option.isSome_iff_exists.mp (by simpa [struct?] using ⟨s, h, rfl⟩)
  obtain ⟨mem, same⟩ := struct?_eq_some hfound
  rw [hfound, List.inj_on_of_nodup_map nodup mem h same]

theorem ResolvedFrom.addGroup {seen seen' : List String} {schema' : SchemaSet}
    {group : DefinitionGroup} (before : ResolvedFrom groups schema)
    (h : Resolve.addGroup seen schema group = .ok (seen', schema')) :
    ResolvedFrom (groups ++ [group]) schema' := by
  obtain ⟨grown, -, h⟩ := Except.bind_eq_ok h
  obtain ⟨enums, henums, h⟩ := Except.bind_eq_ok h
  obtain ⟨bitfields, hbitfields, h⟩ := Except.bind_eq_ok h
  obtain ⟨structs, hstructs, h⟩ := Except.bind_eq_ok h
  cases h
  constructor
  all_goals rw [List.flatMap_append, List.flatMap_singleton]
  · exact List.rel_append before.enums (Resolve.forall₂_from_of_mapM henums)
  · exact List.rel_append before.bitfields (Resolve.forall₂_from_of_mapM hbitfields)
  · exact List.rel_append before.structs (Resolve.forall₂_from_of_mapM hstructs)

theorem ResolvedFrom.addGroups {seen seen' : List String} {schema' : SchemaSet}
    {more : List DefinitionGroup} (before : ResolvedFrom groups schema)
    (h : more.foldlM (fun (seen, schema) group => Resolve.addGroup seen schema group)
      (seen, schema) = .ok (seen', schema')) : ResolvedFrom (groups ++ more) schema' := by
  induction more generalizing groups seen schema with
  | nil =>
    cases h
    simpa using before
  | cons group rest ih =>
    rw [List.foldlM_cons] at h
    obtain ⟨⟨seen₁, schema₁⟩, hgroup, h⟩ := Except.bind_eq_ok h
    simpa using ih (before.addGroup hgroup) h

/-- A resolved schema has all records of its groups and nothing else. -/
theorem resolvedFrom (h : SchemaSet.resolve groups = .ok schema) : ResolvedFrom groups schema := by
  obtain ⟨⟨seen, found⟩, h, hfound⟩ := Except.bind_eq_ok h
  cases hfound
  have start : ResolvedFrom [] {} := ⟨.nil, .nil, .nil⟩
  exact start.addGroups h

namespace ResolvedFrom

variable (resolved : ResolvedFrom groups schema)
include resolved

/-- The structs of a schema bear the names that are defined, in load order. -/
theorem structNames :
    schema.structs.map (·.name) = (groups.flatMap (·.structs)).map (·.name) := by
  refine List.forall₂_eq_eq_eq ▸ List.forall₂_map_left_iff.mpr (List.forall₂_map_right_iff.mpr ?_)
  exact resolved.structs.flip.imp fun _ _ ⟨_, h⟩ => Resolve.name_of_struct h

/-- Nothing in a resolved schema is empty. -/
theorem isSolid : schema.IsSolid where
  enums e he := by
    obtain ⟨record, -, group, h⟩ := exists_mem_of_forall₂ resolved.enums he
    obtain ⟨-, -, width, -⟩ := Resolve.enum_eq_ok h
    omega
  bitfields b hb := by
    obtain ⟨record, -, group, h⟩ := exists_mem_of_forall₂ resolved.bitfields hb
    obtain ⟨-, -, width, -⟩ := Resolve.bitfield_eq_ok h
    omega
  padding s hs := by
    obtain ⟨record, -, group, h⟩ := exists_mem_of_forall₂ resolved.structs hs
    obtain ⟨-, -, -, -, positive⟩ := Resolve.struct_eq_ok h
    exact positive

end ResolvedFrom

end SchemaSet

end TagSchema
