import Mathlib.Data.List.Chain
import TagSchema.Proofs.Schema.Closedness

/-!
# Layouts extend the layouts of parents

The fields of a struct follow each other without gaps, and they start with those of the parent. Each
struct is classified from scratch with its whole chain of inheritance, so the fields of the parent
are classified again for each heir. What changes is that they count as inherited, and that failures
name the heir: a run for the parent is a run for the heir with all fields marked
(`Classify.addAncestors_asInherited`), and the heir adds its own fields to that.
-/

namespace TagSchema

/-- The field as a struct has it from an ancestor. -/
def ClassifiedField.asInherited (field : ClassifiedField) : ClassifiedField :=
  { field with inherited := true }

namespace ClassifiedStruct

/-- The first field starts the struct, each of the others starts where the one before it stops, and
the struct stops with the last. Offsets and sizes are added as words or as numbers. -/
structure IsContiguous (s : ClassifiedStruct) (add : Nat → Nat → Nat) : Prop where
  first : ∀ f ∈ s.fields.head?, f.offset = 0
  next : s.fields.IsChain fun f g => g.offset = add f.offset f.size
  size : s.computedSize = (s.fields.getLast?.map fun f => add f.offset f.size).getD 0

/-- The struct has the fields of its parent, inherited, and behind them its own; and the title of
its parent, if it declares none. -/
structure Extends (own : ResolvedStruct) (s parent : ClassifiedStruct) : Prop where
  fields : ∃ added, s.fields = parent.fields.map (·.asInherited) ++ added ∧
    List.Forall₂ (fun field f => ∃ kind, f = ResolvedField.placed field f.offset false kind)
      own.fields added
  title : own.title = none → s.title = parent.title

end ClassifiedStruct

/-! ### Contiguous fields -/

/-- Fields are put one behind the other, in any addition that agrees with that of words on them. -/
theorem Placed.contiguous {schema : SchemaSet} {fields : List ResolvedField}
    {placed : List ClassifiedField} {offset : Nat} (h : Placed schema fields placed offset)
    {add : Nat → Nat → Nat} (agree : ∀ f ∈ placed, Size.add f.offset f.size = add f.offset f.size) :
    (∀ f ∈ placed.head?, f.offset = 0) ∧
      (placed.IsChain fun f g => g.offset = add f.offset f.size) ∧
      offset = (placed.getLast?.map fun f => add f.offset f.size).getD 0 := by
  -- The running offset is where the last placed field ends.
  induction h with
  | nil => exact ⟨by simp, .nil, rfl⟩
  | @snoc fields placed offset field kind inherited before fits ih =>
    obtain ⟨first, next, stop⟩ := ih fun f hf => agree f (List.mem_append_left _ hf)
    refine ⟨?_, List.isChain_append.mpr ⟨next, .singleton _, ?_⟩, ?_⟩
    · cases placed with
      | nil =>
        intro f hf
        cases hf
        exact stop
      | cons f rest => exact first
    · intro f hf g hg
      cases hg
      rw [hf] at stop
      exact stop
    · rw [List.getLast?_concat]
      exact agree _ (List.mem_append_right _ (List.mem_singleton_self _))

namespace Classify

variable {schema : SchemaSet} {owner heir : String} {inherited : Bool}
  {progress progress' : Progress}

/-! ### The same run for an heir -/

/-- The fields so far as an heir has them. -/
def Progress.asInherited (progress : Progress) : Progress :=
  { progress with fields := progress.fields.map (·.asInherited) }

/-- When a change of the state carries each step over to another, it carries whole runs over. -/
theorem foldlM_map {ε α σ : Type} {f g : σ → α → Except ε σ} (change : σ → σ) {l : List α}
    (step : ∀ a ∈ l, ∀ s s', f s a = .ok s' → g (change s) a = .ok (change s')) {s s' : σ}
    (h : l.foldlM f s = .ok s') : l.foldlM g (change s) = .ok (change s') := by
  induction l generalizing s with
  | nil =>
    cases h
    rfl
  | cons a rest ih =>
    rw [List.foldlM_cons] at h
    obtain ⟨next, first, h⟩ := Except.bind_eq_ok h
    rw [List.foldlM_cons, step a List.mem_cons_self s next first]
    exact ih (fun b hb => step b (List.mem_cons_of_mem a hb)) h

theorem addField_asInherited {field : ResolvedField}
    (h : addField schema owner inherited progress field = .ok progress') :
    addField schema heir true progress.asInherited field = .ok progress'.asInherited := by
  obtain ⟨kind, ⟨coherent, rule, fresh⟩, rfl⟩ := addField_eq_ok_iff.mp h
  have identifiers : progress.asInherited.fields.map (·.identifier) =
      progress.fields.map (·.identifier) := List.map_map
  refine addField_eq_ok_iff.mpr ⟨kind, ⟨coherent, rule, identifiers ▸ fresh⟩, ?_⟩
  simp [Progress.asInherited, Progress.place, ResolvedField.placed, ClassifiedField.asInherited]

theorem titleField_asInherited (title : String) (fields : List ClassifiedField) :
    titleField owner title (fields.map (·.asInherited)) = titleField owner title fields := by
  have found : (fields.map (·.asInherited)).find? (fun f =>
        f.displayName == title || f.identifier == Names.memberName title) =
      (fields.find? fun f =>
        f.displayName == title || f.identifier == Names.memberName title).map (·.asInherited) :=
    List.find?_map ..
  unfold titleField
  dsimp only
  rw [found]
  cases fields.find? fun f => f.displayName == title || f.identifier == Names.memberName title with
  | none => rfl
  | some f => rfl

theorem addAncestor_asInherited {ancestor : ResolvedStruct} (other : ancestor.name ≠ heir)
    (h : addAncestor schema owner progress ancestor = .ok progress') :
    addAncestor schema heir progress.asInherited ancestor = .ok progress'.asInherited := by
  obtain ⟨middle, added, h⟩ := Except.bind_eq_ok h
  refine Except.bind_eq_ok_iff.mpr ⟨middle.asInherited, ?_, ?_⟩
  · rw [decide_eq_true other]
    exact foldlM_map Progress.asInherited (fun _ _ _ _ => addField_asInherited) added
  · cases declared : ancestor.title with
    | none =>
      rw [declared] at h
      cases h
      rfl
    | some title =>
      rw [declared] at h
      obtain ⟨identifier, found, h⟩ := Except.bind_eq_ok h
      cases h
      refine Except.bind_eq_ok_iff.mpr ⟨identifier, ?_, rfl⟩
      rw [← found]
      exact titleField_asInherited title middle.fields

/-- A run through ancestors for one struct is a run for each of its heirs. -/
theorem addAncestors_asInherited {chain : List ResolvedStruct} (other : heir ∉ chain.map (·.name))
    (h : chain.foldlM (addAncestor schema owner) progress = .ok progress') :
    chain.foldlM (addAncestor schema heir) progress.asInherited = .ok progress'.asInherited :=
  foldlM_map Progress.asInherited (fun _ mem _ _ =>
    addAncestor_asInherited (ne_of_mem_of_not_mem (List.mem_map_of_mem mem) other)) h

end Classify

/-! ### Parents -/

namespace Analysis.IsOf

variable {groups : List DefinitionGroup} {analysis : Analysis} (whole : analysis.IsOf groups)
include whole

/-- A struct extends its parent. -/
theorem extends_parent {s parent : ResolvedStruct} (hs : s ∈ analysis.set.structs)
    (inherits : s.inherits = some parent.name) (hparent : parent ∈ analysis.set.structs)
    {c p : ClassifiedStruct} (classified : Classify.struct analysis.set s = .ok c)
    (parentClassified : Classify.struct analysis.set parent = .ok p) : c.Extends s p := by
  obtain ⟨chain, progress, ancestors, run, rfl⟩ := Classify.struct_run classified
  obtain ⟨above, progress', ancestors', run', rfl⟩ := Classify.struct_run parentClassified
  have found := SchemaSet.struct?_of_mem whole.nodup_names hparent
  obtain ⟨up, distinct⟩ :=
    SchemaSet.lineage_eq_ok (SchemaSet.struct?_of_mem whole.nodup_names hs) ancestors
  obtain ⟨up', -⟩ := SchemaSet.lineage_eq_ok found ancestors'
  obtain rfl := up.unique (.child inherits found up')
  -- The heir is none of its ancestors.
  rw [List.map_append, List.nodup_append'] at distinct
  have other : s.name ∉ above.map (·.name) := fun h => distinct.2.2 h (by simp)
  have inherited : above.foldlM (Classify.addAncestor analysis.set s.name) {} =
      .ok progress'.asInherited := Classify.addAncestors_asInherited other run'
  rw [List.foldlM_append] at run
  obtain ⟨middle, first, run⟩ := Except.bind_eq_ok run
  cases inherited.symm.trans first
  rw [List.foldlM_cons] at run
  obtain ⟨last, own, run⟩ := Except.bind_eq_ok run
  cases run
  obtain ⟨added, appended, each, title, -⟩ := Classify.addAncestor_eq_ok own
  rw [decide_eq_false (not_not_intro rfl)] at each
  exact ⟨⟨added, appended, each⟩, title⟩

end Analysis.IsOf

/-- **Layouts extend the layouts of parents.** The fields of a classified struct follow each other
without gaps: offsets are sums of words, and sums of numbers as long as a word can hold the size of
the struct. If the struct has a parent, its fields are those of the parent, inherited, and then its
own. -/
theorem analyze_extends {groups : List DefinitionGroup} {analysis : Analysis}
    (accepted : analyze groups = .ok analysis) {s : ClassifiedStruct}
    (hs : s ∈ analysis.schema.structs) :
    s.IsContiguous Size.add ∧ (s.InRange → s.IsContiguous (· + ·)) ∧
    ∀ parent, s.inherits = some parent →
      ∃ p ∈ analysis.schema.structs, p.name = parent ∧
        ∃ own, analysis.set.struct? s.name = some own ∧ s.Extends own p := by
  have whole := Analysis.isOf accepted
  obtain ⟨own, hown, classified⟩ := whole.exists_struct hs
  obtain ⟨chain, ancestors, placed⟩ := whole.placed hown classified
  refine ⟨?_, fun inRange => ?_, fun parent inherits => ?_⟩
  · obtain ⟨first, next, size⟩ := placed.contiguous fun _ _ => rfl
    exact ⟨first, next, size⟩
  · -- In range no offset wraps, so the sums of words are sums.
    obtain ⟨total, within, -⟩ := placed.apart inRange
    obtain ⟨first, next, size⟩ := placed.contiguous fun f hf =>
      Size.add_of_lt (Nat.lt_of_le_of_lt ((within f hf).2.trans_eq total) inRange)
    exact ⟨first, next, size⟩
  · obtain ⟨-, -, name, same, -⟩ := Classify.struct_eq_ok classified
    rw [same] at inherits
    -- The ancestors of the struct are those of its parent, and the parent.
    cases ancestors with
    | root top => cases top.symm.trans inherits
    | child inherits' found =>
      cases inherits.symm.trans inherits'
      obtain ⟨hparent, rfl⟩ := SchemaSet.struct?_eq_some found
      obtain ⟨p, hp, parentClassified⟩ := whole.exists_classified hparent
      obtain ⟨-, -, parentName, -⟩ := Classify.struct_eq_ok parentClassified
      exact ⟨p, hp, parentName, own, name ▸ SchemaSet.struct?_of_mem whole.nodup_names hown,
        whole.extends_parent hown inherits hparent classified parentClassified⟩

theorem analyze_extends_turret :
    ∃ analysis, analyze turret = .ok analysis ∧ ∃ s ∈ analysis.schema.structs,
      s.inherits = some "Mount" ∧ s.fields.map (·.offset) = [0, 32, 44, 46] ∧
      s.IsContiguous (· + ·) ∧
      ∃ p ∈ analysis.schema.structs, p.name = "Mount" ∧
        ∃ own, analysis.set.struct? s.name = some own ∧ s.Extends own p := by
  obtain ⟨analysis, accepted, s, hs, inherits, offsets, extent⟩ : ∃ analysis,
      analyze turret = .ok analysis ∧ ∃ s ∈ analysis.schema.structs,
        s.inherits = some "Mount" ∧ s.fields.map (·.offset) = [0, 32, 44, 46] ∧ s.extent = 62 :=
    ⟨_, rfl, _, .tail _ (.tail _ (.head _)), rfl, rfl, rfl⟩
  have inRange : s.InRange := by rw [ClassifiedStruct.InRange, extent]; decide
  obtain ⟨-, contiguous, parents⟩ := analyze_extends accepted hs
  exact ⟨analysis, accepted, s, hs, inherits, offsets, contiguous inRange,
    parents "Mount" inherits⟩

end TagSchema
