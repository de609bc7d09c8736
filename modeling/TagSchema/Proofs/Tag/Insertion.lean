import Mathlib.Data.List.Induction
import Mathlib.Data.List.Nodup
import TagSchema.Tag.ClassTable

/-!
# Names inserted once each

A list of names stands for a set in the order in which its names are first seen. A name goes to the
end unless it is there already, so what was there stays in its place, a list can be inserted in
parts, and a part that is there already can be left out.
-/

namespace TagSchema.ClassTable

variable {names added : List String}

/-! ### Single names -/

theorem mem_insertNew {a b : String} : a ∈ insertNew names b ↔ a ∈ names ∨ a = b := by
  unfold insertNew
  split
  · exact ⟨Or.inl, fun h => h.elim id fun same => same ▸ ‹b ∈ names›⟩
  · rw [List.mem_append, List.mem_singleton]

theorem nodup_insertNew {name : String} (h : names.Nodup) : (insertNew names name).Nodup := by
  unfold insertNew
  split
  · exact h
  · exact List.concat_eq_append ▸ h.concat ‹_›

theorem isPrefix_insertNew {name : String} : names <+: insertNew names name := by
  unfold insertNew
  split
  · exact List.prefix_refl names
  · exact List.prefix_append names [name]

/-! ### Lists of names -/

theorem mem_foldl_insertNew {a : String} :
    a ∈ added.foldl insertNew names ↔ a ∈ names ∨ a ∈ added := by
  induction added generalizing names with
  | nil => simp
  | cons b rest ih => rw [List.foldl_cons, ih, mem_insertNew, List.mem_cons, or_assoc]

theorem nodup_foldl_insertNew (h : names.Nodup) : (added.foldl insertNew names).Nodup := by
  induction added generalizing names with
  | nil => exact h
  | cons name rest ih => exact ih (nodup_insertNew h)

theorem isPrefix_foldl_insertNew : names <+: added.foldl insertNew names := by
  induction added generalizing names with
  | nil => exact List.prefix_refl names
  | cons name rest ih => exact isPrefix_insertNew.trans ih

/-- Names that are there already change nothing. -/
theorem foldl_insertNew_of_subset (known : added ⊆ names) :
    added.foldl insertNew names = names := by
  induction added with
  | nil => rfl
  | cons name rest ih =>
    obtain ⟨here, others⟩ := List.cons_subset.mp known
    rw [List.foldl_cons, insertNew, if_pos here]
    exact ih others

/-- What is inserted comes behind what was there, without those names that were there. -/
theorem foldl_insertNew_eq_append :
    added.foldl insertNew names = names ++ (added.foldl insertNew []).filter (· ∉ names) := by
  induction added using List.reverseRecOn with
  | nil => simp
  | append_singleton before last ih =>
    rw [List.foldl_concat, List.foldl_concat, ih, insertNew, insertNew]
    by_cases old : last ∈ names
    · rw [if_pos (List.mem_append_left _ old)]
      split
      · rfl
      · simp [old]
    by_cases again : last ∈ before.foldl insertNew []
    · rw [if_pos again, if_pos]
      exact List.mem_append_right _ (List.mem_filter.mpr ⟨again, decide_eq_true old⟩)
    · rw [if_neg again, if_neg]
      · simp [old]
      · simp [old, again]

/-! ### Lists that names stand for -/

variable (stand : String → List String)

/-- It is enough to insert what each name stands for once. -/
theorem foldl_insertNew_flatMap_distinct :
    ((added.foldl insertNew []).flatMap stand).foldl insertNew names =
      (added.flatMap stand).foldl insertNew names := by
  induction added using List.reverseRecOn with
  | nil => rfl
  | append_singleton before last ih =>
    rw [List.foldl_concat, List.flatMap_append, List.foldl_append, ← ih, List.flatMap_singleton,
      insertNew]
    split
    · rename_i again
      refine (foldl_insertNew_of_subset ?_).symm
      intro name mem
      exact mem_foldl_insertNew.mpr (.inr (List.mem_flatMap.mpr ⟨last, again, mem⟩))
    · rw [List.flatMap_append, List.foldl_append, List.flatMap_singleton]

/-- What a name stands for need not be inserted a second time right behind it. -/
theorem foldl_insertNew_flatMap_append {more : String → List String}
    (within : ∀ name, more name ⊆ stand name) :
    (added.flatMap fun name => stand name ++ more name).foldl insertNew names =
      (added.flatMap stand).foldl insertNew names := by
  induction added generalizing names with
  | nil => rfl
  | cons name rest ih =>
    rw [List.flatMap_cons, List.flatMap_cons, List.foldl_append, List.foldl_append,
      List.foldl_append, ih]
    refine congrArg (fun seen => (rest.flatMap stand).foldl insertNew seen) ?_
    refine foldl_insertNew_of_subset ?_
    intro member mem
    exact mem_foldl_insertNew.mpr (.inr (within name mem))

end TagSchema.ClassTable
