import TagSchema.Proofs.Mending.Leaves

/-!
# Replacing references

A refactoring comes to every reference of a value once, at whatever depth. It counts those that it
replaces, and all else stays as it is, so the count and the change of the value can be read off the
list of references. Doing it again finds nothing, unless the new reference is one of those that are
looked for; then it finds as many and puts the same in their place.
-/

namespace TagSchema

/-! ### Single references -/

namespace Text

/-- The lower case of a character is the one of the library. -/
theorem asciiLower_eq_toLower (c : Char) : asciiLower c = c.toLower := by
  unfold asciiLower Char.toLower
  by_cases h : 'A' ≤ c ∧ c ≤ 'Z'
  · have hle : c.toNat ≤ 90 := h.2
    have hvalid : (c.toNat + 32).isValidChar := Or.inl (by omega)
    have hsum : c.toNat + 32 = (c.toNat + 32) % UInt32.size :=
      (Nat.mod_eq_of_lt (by simp only [UInt32.size]; omega)).symm
    rw [if_pos h, dif_pos ⟨h.1, h.2⟩, Char.ofNat, dif_pos hvalid]
    exact Char.ext (UInt32.toNat_inj.mp (hsum.trans (UInt32.toNat_add c.val 32).symm))
  · rw [if_neg h, dif_neg fun h' => h ⟨h'.1, h'.2⟩]

/-- Texts are equal but for the case of ASCII letters if they have the same lower-case form, in
which nothing but ASCII letters is lowered. -/
theorem equalIgnoringAsciiCase_iff (a b : String) :
    equalIgnoringAsciiCase a b = true ↔ a.toLower = b.toLower := by
  have lower : asciiLower = Char.toLower := funext asciiLower_eq_toLower
  have toList_toLower (s : String) : s.toLower.toList = s.toList.map Char.toLower :=
    String.toList_map
  rw [equalIgnoringAsciiCase, decide_eq_true_iff, lower, ← String.toList_inj, toList_toLower,
    toList_toLower]

end Text

namespace Dependency

/-- Whether two references have the same class and, but for the case of ASCII letters, the same
path. -/
def SameTag (a b : Dependency) : Prop := a.tagClass = b.tagClass ∧ a.path.toLower = b.path.toLower

instance (a b : Dependency) : Decidable (SameTag a b) := inferInstanceAs (Decidable (_ ∧ _))

/-- The reference, but if it is to the tag of `source` a new one to the tag of `target`. -/
def redirect (source target : Dependency) (d : Dependency) : Dependency :=
  if d.SameTag source then toTag target.tagClass target.path else d

variable {source target d : Dependency}

/-- A reference counts if it is to the source, and is redirected. -/
theorem refactor_eq (d : Dependency) :
    refactor source target d = (decide (d.SameTag source), redirect source target d) := by
  unfold refactor redirect SameTag
  simp only [Text.equalIgnoringAsciiCase_iff]
  split <;> simp [*]

/-- A reference to the source becomes one to the target. -/
theorem redirect_of_sameTag (h : d.SameTag source) :
    redirect source target d = toTag target.tagClass target.path := if_pos h

theorem redirect_of_not (h : ¬d.SameTag source) : redirect source target d = d := if_neg h

/-- A reference that was redirected is looked for again only if the new reference is. -/
theorem sameTag_redirect (d : Dependency) :
    (redirect source target d).SameTag source ↔ d.SameTag source ∧ target.SameTag source := by
  by_cases h : d.SameTag source
  · rw [redirect_of_sameTag h]
    exact (and_iff_right h).symm
  · rw [redirect_of_not h]
    exact iff_of_false h fun h' => h h'.1

/-- A reference that was redirected is not redirected again. -/
theorem redirect_redirect (d : Dependency) :
    redirect source target (redirect source target d) = redirect source target d := by
  by_cases h : d.SameTag source
  · rw [redirect_of_sameTag h]
    exact ite_self _
  · rw [redirect_of_not h, redirect_of_not h]

-- A path is found under a name in capitals, but not under one with a capital É.
example : (["WEAPONS\\éPéE", "WEAPONS\\ÉPÉE"].map fun path =>
    (refactor (.toTag ⟨0x6D6F6465⟩ path) (.toTag ⟨0x6D6F6465⟩ "sword")
      (.toTag ⟨0x6D6F6465⟩ "weapons\\épée")).1) = [true, false] := by
  decide +kernel

end Dependency

/-! ### Members -/

namespace LeafType

/-- The reference that a member is, if it is one. -/
def references : (type : LeafType) → type.Value → List Dependency
  | .dependency _ _, (d : Dependency) => [d]
  | .plain _, _ => []
  | .blob _, _ => []

/-- A member with its reference redirected, if it is one. -/
def redirect (source target : Dependency) : (type : LeafType) → type.Value → type.Value
  | .dependency _ _, (d : Dependency) => .redirect source target d
  | .plain _, value => value
  | .blob _, value => value

variable (source target : Dependency) (type : LeafType) (value : type.Value)

/-- Of a member as many references count as are to the source. -/
theorem refactor_eq : type.refactor source target value =
    ((type.references value).countP (·.SameTag source), type.redirect source target value) := by
  cases type with
  | dependency classes nonNull =>
    have h := @Dependency.refactor_eq source target value
    simp only [refactor, h]
    exact Prod.ext List.countP_singleton.symm rfl
  | plain | blob => rfl

theorem references_redirect : type.references (type.redirect source target value) =
    (type.references value).map (.redirect source target) := by
  cases type <;> rfl

theorem redirect_redirect : type.redirect source target (type.redirect source target value) =
    type.redirect source target value := by
  cases type with
  | dependency classes nonNull =>
    exact @Dependency.redirect_redirect source target value
  | plain | blob => rfl

end LeafType

/-! ### Values -/

/-- What is counted in items and changed one by one. -/
theorem refactorAll_eq {α : Type} {refactor : α → Nat × α} {references : α → List Dependency}
    {sought : Dependency → Bool} {change : α → α}
    (h : ∀ item, refactor item = ((references item).countP sought, change item))
    (items : List α) :
    refactorAll refactor items = ((items.flatMap references).countP sought, items.map change) := by
  induction items with
  | nil => rfl
  | cons item rest ih =>
    rw [refactorAll, h, ih, List.flatMap_cons, List.countP_append]
    rfl

namespace Members

/-- The references of a value, at every depth. -/
def references : (members : Members) → members.Value → List Dependency
  | .nil, _ => []
  | .leaf _ type rest, value => type.references value.1 ++ rest.references value.2
  | .array _ _ _ _ element rest, value =>
    value.1.flatMap element.references ++ rest.references value.2

variable (source target : Dependency) (members : Members) (stack : ContainmentStack)
  (value : members.Value)

/-- A refactoring counts the references that it redirects, and does nothing else. -/
theorem refactor_eq : members.refactor source target value =
    ((members.references value).countP (·.SameTag source),
      members.mapLeaves (fun _ type value => type.redirect source target value) stack value) := by
  induction members generalizing stack with
  | nil => rfl
  | leaf traits type rest ih =>
    simp only [refactor, LeafType.refactor_eq, ih stack value.2, references, List.countP_append]
    rfl
  | array traits limits name title element rest ihElement ih =>
    have items := refactorAll_eq
      (fun item => ihElement (stack.enter (element.frame name item)) item) value.1
    simp only [refactor, ih stack value.2, items, references, List.countP_append]
    rfl

theorem references_redirect :
    members.references
        (members.mapLeaves (fun _ type value => type.redirect source target value) stack value) =
      (members.references value).map (.redirect source target) := by
  induction members generalizing stack with
  | nil => rfl
  | leaf traits type rest ih =>
    simp only [mapLeaves, references, LeafType.references_redirect, ih, List.map_append]
  | array traits limits name title element rest ihElement ih =>
    simp only [mapLeaves, references, ih, List.flatMap_map, ihElement, List.map_append,
      List.map_flatMap]

end Members

namespace StructType

/-- A value with every reference to the tag of `source` redirected, at every depth. -/
def redirect (source target : Dependency) (type : StructType) (value : type.Value) : type.Value :=
  type.mapLeaves (fun _ leaf value => leaf.redirect source target value) value

variable (source target : Dependency) (type : StructType) (value : type.Value)

/-- So it is of a value: all of its references are counted, and each is redirected. -/
theorem refactor_eq : type.members.refactor source target value =
    ((type.members.references value).countP (·.SameTag source),
      type.redirect source target value) :=
  type.members.refactor_eq source target _ value

/-- The references of the result are those of the value, each redirected. -/
theorem references_redirect : type.members.references (type.redirect source target value) =
    (type.members.references value).map (.redirect source target) :=
  type.members.references_redirect source target _ value

/-- A second time there is nothing left to redirect. -/
theorem redirect_redirect : type.redirect source target (type.redirect source target value) =
    type.redirect source target value := by
  rw [redirect, redirect, mapLeaves_mapLeaves]
  simp only [LeafType.redirect_redirect]

/-- Of the references that were redirected, those are looked for again that were looked for, if the
new reference is. -/
theorem countP_redirect :
    (type.members.references (type.redirect source target value)).countP (·.SameTag source) =
      if target.SameTag source then (type.members.references value).countP (·.SameTag source)
      else 0 := by
  rw [references_redirect, List.countP_map]
  split
  next h => simp only [Function.comp_def, Dependency.sameTag_redirect, h, and_true]
  next h => simp [Function.comp_def, Dependency.sameTag_redirect, h]

end StructType

open StructType in
/-- **Refactoring is exact.** For a value of any type, it says how many references at any depth are
to the tag of `source`. Just these become references to the tag of `target`, without an identifier,
and nothing else changes. Doing it again changes nothing any more, and finds nothing or, if the new
reference is looked for itself, as many as before. -/
theorem refactor_exact (source target : Dependency) (type : StructType) (value : type.Value) :
    ∃ count result, type.members.refactor source target value = (count, result) ∧
      count = (type.members.references value).countP (·.SameTag source) ∧
      result = type.redirect source target value ∧
      type.members.references result =
        (type.members.references value).map (.redirect source target) ∧
      type.members.refactor source target result =
        (if target.SameTag source then count else 0, result) := by
  refine ⟨_, _, type.refactor_eq source target value, rfl, rfl,
    type.references_redirect source target value, ?_⟩
  rw [refactor_eq, countP_redirect, redirect_redirect]

end TagSchema
