import Mathlib.Data.List.Forall2
import TagSchema.Proofs.File.Visibility
import TagSchema.Struct.Compare

/-!
# What a comparison finds

A comparison stops at the first difference or reports all of them, but what there is to be found
does not depend on that. `Members.differences` lists it, and `Members.compare_eq` says that every
comparison has the list for its outcome: the values are the same if it is empty, and a comparison
that reports everything reports the list. So whatever is to be said about comparisons is said about
the list, which gets shorter when less counts as a difference, and in which members that only
bundles have never come up.
-/

namespace TagSchema

/-! ### Outcomes -/

namespace Difference

/-- The differences inside of an element, and after them the one that it differs. -/
def ofElement (inside : List Difference) (element : Difference) : List Difference :=
  if inside.isEmpty then [] else inside ++ [element]

/-- The differences of pairs of elements, the first at the given index. -/
def ofPairs {α : Type} (inside : α → α → List Difference) (element : Nat → Difference) :
    Nat → List (α × α) → List Difference
  | _, [] => []
  | index, (a, b) :: rest =>
    ofElement (inside a b) (element index) ++ ofPairs inside element (index + 1) rest

end Difference

namespace Comparison

/-- The outcome of a comparison for which there are the given differences to be found. -/
def finding (options : CompareOptions) (differences : List Difference) : Comparison :=
  { same := differences.isEmpty, log := if options.verbose then differences else [] }

variable (options : CompareOptions)

theorem test_eq (differs : Bool) (difference : Difference) :
    test options differs difference = finding options (if differs then [difference] else []) := by
  cases differs with
  | true => rfl
  | false => simp [test, finding, equal]

/-- What a comparison does not come to any more, since it has stopped, does not show. -/
theorem andThen_finding (first second : List Difference) :
    (finding options first).andThen options (finding options second) =
      finding options (first ++ second) := by
  unfold andThen finding
  cases first <;> cases options.verbose <;> simp

theorem ofElement_finding (inside : List Difference) (element : Difference) :
    ofElement options (finding options inside) element =
      finding options (Difference.ofElement inside element) := by
  rw [ofElement, test_eq, andThen_finding]
  cases inside <;> simp [finding, Difference.ofElement]

theorem ofPairs_finding {α : Type} {compare : α → α → Comparison}
    {inside : α → α → List Difference} (h : ∀ a b, compare a b = finding options (inside a b))
    (element : Nat → Difference) (index : Nat) (pairs : List (α × α)) :
    ofPairs options compare element index pairs =
      finding options (Difference.ofPairs inside element index pairs) := by
  induction pairs generalizing index with
  | nil => simp [ofPairs, Difference.ofPairs, finding, equal]
  | cons pair rest ih =>
    rw [ofPairs, h, ofElement_finding, ih, andThen_finding]
    rfl

end Comparison

/-! ### Values -/

namespace Members

/-- The differences between the members of two structs at some depth. -/
def differences (precision ignoreVolatile : Bool) (owner : String) (depth : Nat) :
    (members : Members) → members.Value → members.Value → List Difference
  | .nil, _, _ => []
  | .leaf traits type rest, a, b =>
    (if traits.cacheOnly || (traits.volatile && ignoreVolatile) || type.same precision a.1 b.1
      then [] else [⟨traits.site owner, none, depth⟩]) ++
    rest.differences precision ignoreVolatile owner depth a.2 b.2
  | .array traits _ name _ element rest, a, b =>
    (if traits.cacheOnly then []
      else (if a.1.length = b.1.length then [] else [⟨traits.site owner, none, depth⟩]) ++
        Difference.ofPairs (element.differences precision ignoreVolatile name (depth + 1))
          (fun index => ⟨traits.site owner, some index, depth⟩) 0 (a.1.zip b.1)) ++
    rest.differences precision ignoreVolatile owner depth a.2 b.2

/-- A comparison finds the differences, whether it stops at the first one or not. -/
theorem compare_eq (options : CompareOptions) (owner : String) (depth : Nat) (members : Members)
    (a b : members.Value) :
    members.compare options owner depth a b = .finding options
      (members.differences options.precision options.ignoreVolatile owner depth a b) := by
  induction members generalizing owner depth with
  | nil => simp [compare, differences, Comparison.equal, Comparison.finding]
  | leaf traits type rest ih =>
    rw [compare, differences, ih]
    -- What is skipped gives no difference and no report; what is compared gives one difference, or
    -- none.
    cases traits.cacheOnly || (traits.volatile && options.ignoreVolatile) with
    | true => rfl
    | false =>
      simp only [Bool.false_eq_true, if_false, Comparison.test_eq, Comparison.andThen_finding]
      cases type.same options.precision a.1 b.1 <;> rfl
  | array traits limits name title element rest ihElement ih =>
    rw [compare, differences, ih]
    cases traits.cacheOnly with
    | true => rfl
    | false =>
      have helements := Comparison.ofPairs_finding options (ihElement name (depth + 1))
        (fun index => ⟨traits.site owner, some index, depth⟩) 0 (a.1.zip b.1)
      simp only [Bool.false_eq_true, if_false, helements, Comparison.test_eq,
        Comparison.andThen_finding]
      by_cases hlength : a.1.length = b.1.length <;> simp [hlength]

end Members

/-! ### Less counts as a difference -/

/-- Words that are the same without any distance between them are the same within one. -/
theorem Primitive.sameWithin_of_none {type : Primitive} {a b : type.Word}
    (h : type.sameWithin none a b = true) (distance : Option Float) :
    type.sameWithin distance a b = true := by
  unfold sameWithin at *
  split
  · rename_i hfloat
    simp only [hfloat, if_true, Bool.or_false] at h
    simp only [h, Bool.true_or]
  · rename_i hwhole
    rwa [if_neg hwhole] at h

/-- What is the same exactly is the same nearly. -/
theorem LeafType.same_of_exact {precision precision' : Bool} (hprecision : precision ≤ precision')
    {type : LeafType} {a b : type.Value} (h : type.same precision a b = true) :
    type.same precision' a b = true := by
  cases precision with
  | true =>
    obtain rfl := hprecision rfl
    exact h
  | false =>
    cases type with
    | dependency | blob => exact h
    | plain type =>
      cases type with
      | number shape rule =>
        refine List.all_eq_true.mpr fun pair hpair => ?_
        exact Primitive.sameWithin_of_none (List.all_eq_true.mp h pair hpair) _
      | enum | bitfield | index | tagId | tagString | fourCC | padding => exact h

namespace Difference

/-- An element in which less differs differs less. -/
theorem ofElement_sublist {inside inside' : List Difference} (h : inside'.Sublist inside)
    (element : Difference) : (ofElement inside' element).Sublist (ofElement inside element) := by
  unfold ofElement
  cases inside' with
  | nil => exact List.nil_sublist _
  | cons first others =>
    obtain ⟨second, others', rfl⟩ := List.exists_cons_of_ne_nil (l := inside) (by
      rintro rfl
      exact absurd h (by simp))
    exact h.append_right [element]

theorem ofPairs_sublist {α : Type} {inside inside' : α → α → List Difference}
    (h : ∀ a b, (inside' a b).Sublist (inside a b)) (element : Nat → Difference) (index : Nat)
    (pairs : List (α × α)) :
    (ofPairs inside' element index pairs).Sublist (ofPairs inside element index pairs) := by
  induction pairs generalizing index with
  | nil => exact .slnil
  | cons pair rest ih => exact (ofElement_sublist (h _ _) _).append (ih _)

end Difference

/-- There is less to be found when numbers may differ a little, and when volatile members are
ignored. -/
theorem Members.differences_sublist {precision precision' ignoreVolatile ignoreVolatile' : Bool}
    (hprecision : precision ≤ precision') (hvolatile : ignoreVolatile ≤ ignoreVolatile')
    (owner : String) (depth : Nat) (members : Members) (a b : members.Value) :
    (members.differences precision' ignoreVolatile' owner depth a b).Sublist
      (members.differences precision ignoreVolatile owner depth a b) := by
  induction members generalizing owner depth with
  | nil => exact .slnil
  | leaf traits type rest ih =>
    refine List.Sublist.append ?_ (ih owner depth a.2 b.2)
    -- What the stricter comparison skips, or finds equal, the other one does as well.
    have hskipped : (traits.cacheOnly || traits.volatile && ignoreVolatile ||
        type.same precision a.1 b.1) = true → (traits.cacheOnly || traits.volatile &&
        ignoreVolatile' || type.same precision' a.1 b.1) = true := by
      simp only [Bool.or_eq_true, Bool.and_eq_true]
      exact Or.imp (Or.imp_right (And.imp_right hvolatile)) (LeafType.same_of_exact hprecision)
    split
    · exact List.nil_sublist _
    · rename_i h
      rw [if_neg fun hskip => h (hskipped hskip)]
  | array traits limits name title element rest ihElement ih =>
    refine List.Sublist.append ?_ (ih owner depth a.2 b.2)
    cases traits.cacheOnly with
    | true => exact .slnil
    | false =>
      exact (List.Sublist.refl _).append
        (Difference.ofPairs_sublist (ihElement name (depth + 1)) _ 0 _)

/-! ### Members that only bundles have -/

/-- Two values agree, at every depth, except for members that only bundles have. -/
def Members.AgreeButCache : (members : Members) → members.Value → members.Value → Prop
  | .nil, _, _ => True
  | .leaf traits _ rest, a, b =>
    (traits.cacheOnly = false → a.1 = b.1) ∧ rest.AgreeButCache a.2 b.2
  | .array traits _ _ _ element rest, a, b =>
    (traits.cacheOnly = false → List.Forall₂ element.AgreeButCache a.1 b.1) ∧
      rest.AgreeButCache a.2 b.2

theorem Difference.ofPairs_congr {α : Type} {relation : α → α → Prop}
    {inside : α → α → List Difference}
    (hinside : ∀ a a' b b', relation a a' → relation b b' → inside a b = inside a' b')
    (element : Nat → Difference) (index : Nat) {first first' second second' : List α}
    (hfirst : List.Forall₂ relation first first') (hsecond : List.Forall₂ relation second second') :
    ofPairs inside element index (first.zip second) =
      ofPairs inside element index (first'.zip second') := by
  induction hfirst generalizing second second' index with
  | nil => rfl
  | cons ha hfirst ih =>
    cases hsecond with
    | nil => rfl
    | cons hb hsecond =>
      simp only [List.zip_cons_cons, ofPairs, hinside _ _ _ _ ha hb, ih (index + 1) hsecond]

/-- Members that only bundles have do not come up. -/
theorem Members.differences_congr (precision ignoreVolatile : Bool) (owner : String) (depth : Nat)
    {members : Members} {a a' b b' : members.Value} (ha : members.AgreeButCache a a')
    (hb : members.AgreeButCache b b') :
    members.differences precision ignoreVolatile owner depth a b =
      members.differences precision ignoreVolatile owner depth a' b' := by
  induction members generalizing owner depth with
  | nil => rfl
  | leaf traits type rest ih =>
    obtain ⟨hfirst, hrest⟩ := ha
    obtain ⟨hfirst', hrest'⟩ := hb
    rw [differences, differences, ih owner depth hrest hrest']
    -- What only bundles have is not looked at, and all else is the same on both sides.
    cases hcache : traits.cacheOnly with
    | true => rfl
    | false => rw [hfirst hcache, hfirst' hcache]
  | array traits limits name title element rest ihElement ih =>
    obtain ⟨hfirst, hrest⟩ := ha
    obtain ⟨hfirst', hrest'⟩ := hb
    rw [differences, differences, ih owner depth hrest hrest']
    cases hcache : traits.cacheOnly with
    | true => rfl
    | false =>
      specialize hfirst hcache
      specialize hfirst' hcache
      have helements := Difference.ofPairs_congr
        (fun a a' b b' ha hb => ihElement name (depth + 1) (a := a) (b := b) ha hb)
        (fun index => ⟨traits.site owner, some index, depth⟩) 0 hfirst hfirst'
      rw [hfirst.length_eq, hfirst'.length_eq, helements]

/-! ### Telling whether values agree -/

instance PlainType.decidableEqValue : (type : PlainType) → DecidableEq type.Value
  | .number shape _ => shape.decidableEqValue
  | .enum type _ | .bitfield type =>
    inferInstanceAs (DecidableEq (Primitive.ofWidth type.width).Word)
  | .index _ => inferInstanceAs (DecidableEq Primitive.u16.Word)
  | .tagId => inferInstanceAs (DecidableEq TagId)
  | .tagString => inferInstanceAs (DecidableEq FixedText)
  | .fourCC => inferInstanceAs (DecidableEq TagClass)
  | .padding _ => inferInstanceAs (DecidableEq Unit)

instance LeafType.decidableEqValue : (type : LeafType) → DecidableEq type.Value
  | .plain type => type.decidableEqValue
  | .dependency _ _ => inferInstanceAs (DecidableEq Dependency)
  | .blob _ => inferInstanceAs (DecidableEq Bytes)

instance Members.decidableEqValue : (members : Members) → DecidableEq members.Value
  | .nil => inferInstanceAs (DecidableEq Unit)
  | .leaf _ type rest =>
    have := type.decidableEqValue
    have := rest.decidableEqValue
    inferInstanceAs (DecidableEq (type.Value × rest.Value))
  | .array _ _ _ _ element rest =>
    have := element.decidableEqValue
    have := rest.decidableEqValue
    inferInstanceAs (DecidableEq (List element.Value × rest.Value))

instance Members.decidableAgreeButCache : (members : Members) → (a b : members.Value) →
    Decidable (members.AgreeButCache a b)
  | .nil, _, _ => .isTrue trivial
  | .leaf traits type rest, a, b =>
    have := type.decidableEqValue
    have := rest.decidableAgreeButCache a.2 b.2
    inferInstanceAs (Decidable ((traits.cacheOnly = false → a.1 = b.1) ∧
      rest.AgreeButCache a.2 b.2))
  | .array traits _ _ _ element rest, a, b =>
    have := element.decidableAgreeButCache
    have := rest.decidableAgreeButCache a.2 b.2
    inferInstanceAs (Decidable ((traits.cacheOnly = false →
      List.Forall₂ element.AgreeButCache a.1 b.1) ∧ rest.AgreeButCache a.2 b.2))

/-! ### Comparisons and their options -/

/-- Values that are the same stay so when less counts as a difference. -/
theorem StructType.same_of_stricter (type : StructType)
    {precision precision' ignoreVolatile ignoreVolatile' : Bool}
    (hprecision : precision ≤ precision') (hvolatile : ignoreVolatile ≤ ignoreVolatile')
    (verbose : Bool) {a b : type.Value}
    (h : (type.compare { precision, ignoreVolatile, verbose } a b).same = true) :
    (type.compare { precision := precision', ignoreVolatile := ignoreVolatile', verbose } a b).same
      = true := by
  unfold compare at *
  rw [Members.compare_eq] at *
  have hnone := List.isEmpty_iff.mp h
  have hless := Members.differences_sublist hprecision hvolatile type.name 0 type.members a b
  rw [hnone] at hless
  exact List.isEmpty_iff.mpr (List.sublist_nil.mp hless)

/-- **Comparisons obey their options.** Whether values are the same does not depend on whether the
differences are reported; they are, at least one of them, exactly when the values are not the same.
Precision and ignoring what is volatile can only make values the same, and members that only bundles
have show neither in the answer nor in the report, at whatever depth they are. -/
theorem compare_obeys_options (type : StructType) (a b : type.Value) :
    (∀ precision ignoreVolatile,
      let silent := type.compare { precision, ignoreVolatile, verbose := false } a b
      let verbose := type.compare { precision, ignoreVolatile, verbose := true } a b
      silent.same = verbose.same ∧ silent.log = [] ∧
        (verbose.log ≠ [] ↔ verbose.same = false)) ∧
    (∀ ignoreVolatile verbose,
      (type.compare { precision := false, ignoreVolatile, verbose } a b).same = true →
        (type.compare { precision := true, ignoreVolatile, verbose } a b).same = true) ∧
    (∀ precision verbose,
      (type.compare { precision, ignoreVolatile := false, verbose } a b).same = true →
        (type.compare { precision, ignoreVolatile := true, verbose } a b).same = true) ∧
    ∀ options a' b', type.members.AgreeButCache a a' → type.members.AgreeButCache b b' →
      type.compare options a' b' = type.compare options a b := by
  refine ⟨fun precision ignoreVolatile => ?reporting, fun ignoreVolatile verbose => ?precision,
    fun precision verbose => ?volatile, fun options a' b' ha hb => ?cache⟩
  case reporting =>
    simp only [StructType.compare, Members.compare_eq, Comparison.finding, if_true, ne_eq,
      List.isEmpty_eq_false_iff]
    exact ⟨trivial, rfl, trivial⟩
  case precision => exact type.same_of_stricter (Bool.false_le true) le_rfl verbose
  case volatile => exact type.same_of_stricter le_rfl (Bool.false_le true) verbose
  case cache =>
    simp only [StructType.compare, Members.compare_eq, Members.differences_congr _ _ _ _ ha hb]

open Catalog in
/-- A jeep that has another type in bundles counts as the same, with precision and without what is
volatile as well, and compares with a jeep of other flags in the same way: the two differ, which is
reported when asked for. -/
theorem compare_obeys_options_jeep :
    ∃ a a' b, jeepWith 2 0x001F ⟨0xE1740000⟩ = some a ∧ jeepWith 0 0x001F ⟨0xE1740000⟩ = some a' ∧
      jeepWith 0 0x000F ⟨0xE1740000⟩ = some b ∧ a ≠ a' ∧
      vehicle.compare { verbose := true } a' b = vehicle.compare { verbose := true } a b ∧
      (vehicle.compare { precision := true } a a').same = true ∧
      (vehicle.compare { ignoreVolatile := true } a a').same = true ∧
      (vehicle.compare {} a b).same = false ∧ (vehicle.compare {} a b).log = [] ∧
      (vehicle.compare { verbose := true } a b).same = false ∧
      (vehicle.compare { verbose := true } a b).log.map Difference.message =
        ["Vehicle::flags is different"] := by
  have hvalues : ∃ a ∈ jeepWith 2 0x001F ⟨0xE1740000⟩, ∃ a' ∈ jeepWith 0 0x001F ⟨0xE1740000⟩,
      ∃ b ∈ jeepWith 0 0x000F ⟨0xE1740000⟩, a ≠ a' ∧ vehicle.members.AgreeButCache a a' ∧
        vehicle.members.AgreeButCache b b ∧ (vehicle.compare {} a a').same = true ∧
        (vehicle.compare { verbose := true } a b).log.map Difference.message =
          ["Vehicle::flags is different"] := by
    decide +kernel
  obtain ⟨a, ha, a', ha', b, hb, hne, hagree, hself, hsame, hlog⟩ := hvalues
  obtain ⟨-, hprecision, hvolatile, -⟩ := compare_obeys_options vehicle a a'
  obtain ⟨hreporting, -, -, hcache⟩ := compare_obeys_options vehicle a b
  obtain ⟨hverbose, hsilent, hreports⟩ := hreporting false false
  have hreported : (vehicle.compare { verbose := true } a b).log ≠ [] := by
    intro hnone
    rw [hnone] at hlog
    exact List.cons_ne_nil _ _ hlog.symm
  have hdiffer := hreports.mp hreported
  exact ⟨a, a', b, ha, ha', hb, hne, hcache _ _ _ hagree hself, hprecision _ _ hsame,
    hvolatile _ _ hsame, hverbose.trans hdiffer, hsilent, hdiffer, hlog⟩

end TagSchema
