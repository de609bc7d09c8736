import Mathlib.Data.List.Nodup
import TagSchema.Proofs.Outcome
import TagSchema.Schema.Resolve

/-!
# Names are defined once

A schema that was resolved defines each struct under a name of its own, so a name stands for at most
one struct. The names seen so far are the invariant of the run through the groups.
-/

namespace TagSchema

variable {ε α β γ : Type}

/-- What each result of a list of computations is read off the inputs, the results are. -/
theorem Except.map_of_mapM {f : α → Except ε β} {g : β → γ} {input : α → γ}
    (single : ∀ a b, f a = .ok b → g b = input a) {l : List α} {results : List β}
    (h : l.mapM f = .ok results) : results.map g = l.map input := by
  induction l generalizing results with
  | nil =>
    cases h
    rfl
  | cons a rest ih =>
    rw [List.mapM_cons] at h
    obtain ⟨b, hb, h⟩ := Except.bind_eq_ok h
    obtain ⟨bs, hbs, h⟩ := Except.bind_eq_ok h
    cases h
    rw [List.map_cons, List.map_cons, single a b hb, ih hbs]

namespace Resolve

/-- A struct keeps its name. -/
theorem name_of_struct {group : String} {record : StructRecord} {s : ResolvedStruct}
    (h : struct group record = .ok s) : s.name = record.name := by
  obtain ⟨fields, -, h⟩ := Except.bind_eq_ok h
  cases h
  rfl

/-- The names of a group join the names seen before it, and none comes twice. -/
theorem defineNames_eq_ok {seen seen' : List String} {definitions : List Definition}
    (h : defineNames seen definitions = .ok seen') :
    seen' = (definitions.map (·.name)).reverse ++ seen ∧
      (seen.Nodup → seen'.Nodup) := by
  induction definitions generalizing seen with
  | nil =>
    cases h
    exact ⟨rfl, id⟩
  | cons definition rest ih =>
    rw [defineNames] at h
    split at h
    · cases h
    · rename_i fresh
      obtain ⟨rfl, nodup⟩ := ih h
      refine ⟨by simp, fun seenNodup => nodup ?_⟩
      exact List.nodup_cons.mpr ⟨by simpa using fresh, seenNodup⟩

/-- The structs of a group bear names of the group, in its order. -/
theorem structs_sublist (group : DefinitionGroup) :
    (group.structs.map (·.name)).Sublist (group.definitions.map (·.name)) := by
  obtain ⟨name, definitions⟩ := group
  induction definitions with
  | nil => exact List.Sublist.refl _
  | cons definition rest ih =>
    cases definition with
    | enum record => exact ih.cons _
    | bitfield record => exact ih.cons _
    | struct record => exact ih.cons_cons _

/-- The invariant of the run: no name was seen twice, and the names of the structs are among those
seen, none twice. -/
def SeenOnce (seen : List String) (schema : SchemaSet) : Prop :=
  seen.Nodup ∧ (schema.structs.map (·.name)).Nodup ∧ schema.structs.map (·.name) ⊆ seen

/-- A group keeps the invariant. -/
theorem SeenOnce.addGroup {seen seen' : List String} {schema schema' : SchemaSet}
    {group : DefinitionGroup} (once : SeenOnce seen schema)
    (h : addGroup seen schema group = .ok (seen', schema')) : SeenOnce seen' schema' := by
  obtain ⟨seenNodup, structsNodup, subset⟩ := once
  obtain ⟨grown, hgrown, h⟩ := Except.bind_eq_ok h
  obtain ⟨enums, -, h⟩ := Except.bind_eq_ok h
  obtain ⟨bitfields, -, h⟩ := Except.bind_eq_ok h
  obtain ⟨structs, hstructs, h⟩ := Except.bind_eq_ok h
  cases h
  obtain ⟨rfl, nodup⟩ := defineNames_eq_ok hgrown
  -- Resolving a struct keeps its name.
  have names : structs.map (·.name) = group.structs.map (·.name) :=
    Except.map_of_mapM (fun _ _ => name_of_struct) hstructs
  obtain ⟨groupNodup, -, apart⟩ := List.nodup_append'.mp (nodup seenNodup)
  have sublist : (structs.map (·.name)).Sublist (group.definitions.map (·.name)) :=
    names ▸ structs_sublist group
  have among : structs.map (·.name) ⊆ (group.definitions.map (·.name)).reverse :=
    fun _ h => List.mem_reverse.mpr (sublist.subset h)
  refine ⟨nodup seenNodup, ?_, ?_⟩
  · rw [List.map_append, List.nodup_append']
    exact ⟨structsNodup, sublist.nodup (List.nodup_reverse.mp groupNodup),
      fun name old new => apart (among new) (subset old)⟩
  · rw [List.map_append]
    exact List.append_subset.mpr ⟨fun _ h => List.mem_append_right _ (subset h),
      fun _ h => List.mem_append_left _ (among h)⟩

/-- All groups keep the invariant. -/
theorem SeenOnce.addGroups {groups : List DefinitionGroup} {seen seen' : List String}
    {schema schema' : SchemaSet} (once : SeenOnce seen schema)
    (h : groups.foldlM (fun (seen, schema) group => Resolve.addGroup seen schema group)
      (seen, schema) = .ok (seen', schema')) : SeenOnce seen' schema' := by
  induction groups generalizing seen schema with
  | nil =>
    cases h
    exact once
  | cons group rest ih =>
    rw [List.foldlM_cons] at h
    obtain ⟨⟨seen₁, schema₁⟩, hgroup, h⟩ := Except.bind_eq_ok h
    exact ih (once.addGroup hgroup) h

end Resolve

/-- The structs of a resolved schema have different names. -/
theorem SchemaSet.nodup_names_of_resolve {groups : List DefinitionGroup} {schema : SchemaSet}
    (h : SchemaSet.resolve groups = .ok schema) : (schema.structs.map (·.name)).Nodup := by
  obtain ⟨⟨seen, found⟩, h, hfound⟩ := Except.bind_eq_ok h
  cases hfound
  have once : Resolve.SeenOnce [] {} := ⟨List.nodup_nil, List.nodup_nil, List.nil_subset _⟩
  exact (once.addGroups h).2.1

end TagSchema
