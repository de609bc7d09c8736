import TagSchema.Proofs.Schema.Resolving

/-!
# Masks of bitfields

A mask is built flag by flag, and each flag adds the bit of its position. So a bit of a mask says
whether there is a flag at that position and whether it meets the condition of the mask
(`Resolve.testBit_maskOf_options`). Everything about masks follows from that: they are as wide as
the bitfield, and what is hidden or cannot be edited is among what there is.
-/

namespace TagSchema

/-- The masks of a bitfield say of each position whether there is a flag, and what it says about
itself. -/
structure ResolvedBitfield.Masks (b : ResolvedBitfield) (flags : List OptionDetail) : Prop where
  fits : flags.length ≤ b.width
  declared (i : Nat) : b.declaredMask.testBit i = true ↔ i < flags.length
  full (i : Nat) : b.fullMask.testBit i = true ↔ ∃ flag, flags[i]? = some flag ∧
    flag.excluded = false
  cacheOnly (i : Nat) : b.cacheOnlyMask.testBit i = true ↔ ∃ flag, flags[i]? = some flag ∧
    flag.cacheOnly = true ∧ flag.excluded = false
  readOnly (i : Nat) : b.readOnlyMask.testBit i = true ↔ ∃ flag, flags[i]? = some flag ∧
    flag.readOnly = true ∧ flag.excluded = false

/-- Every bit of the first number is one of the second. -/
def IsSubmask (mask whole : Nat) : Prop := mask &&& whole = mask

theorem isSubmask_of_testBit {mask whole : Nat}
    (h : ∀ i, mask.testBit i = true → whole.testBit i = true) : IsSubmask mask whole := by
  refine Nat.eq_of_testBit_eq fun i => ?_
  rw [Nat.testBit_and]
  cases bit : mask.testBit i with
  | false => rfl
  | true => rw [h i bit, Bool.and_self]

namespace Resolve

/-! ### Bits of words -/

/-- A word shifted by less than its width loses nothing. -/
theorem toNat_one_shiftLeft {n : Nat} (h : n < 32) :
    ((1 : UInt32) <<< UInt32.ofNat n).toNat = 1 <<< n := by
  have each : ∀ n < 32, ((1 : UInt32) <<< UInt32.ofNat n).toNat = 1 <<< n := by decide
  exact each n h

/-- A flag has one bit, that of its value. -/
theorem testBit_bit {flag : ResolvedOption} (h : flag.value < 32) (i : Nat) :
    flag.bit.toNat.testBit i = decide (flag.value = i) := by
  rw [ResolvedOption.bit, toNat_one_shiftLeft h, Nat.one_shiftLeft, Nat.testBit_two_pow]

/-- The complement of a word has the other bits, as far as the word reaches. -/
theorem testBit_not (word : UInt32) (i : Nat) :
    (~~~word).toNat.testBit i = (decide (i < 32) && !word.toNat.testBit i) :=
  BitVec.getLsbD_not

/-- The mask of some lowest bits has just these, also when they are all that a word has. -/
theorem testBit_lowMask {count : Nat} (h : count ≤ 32) (i : Nat) :
    (lowMask count).toNat.testBit i = decide (i < count) := by
  unfold lowMask
  split
  · rename_i whole
    obtain rfl : count = 32 := Nat.le_antisymm h whole
    exact Nat.testBit_two_pow_sub_one 32 i
  · rename_i partly
    have shifted := toNat_one_shiftLeft (Nat.not_le.mp partly)
    have positive : (1 : UInt32) ≤ 1 <<< UInt32.ofNat count := by
      rw [UInt32.le_iff_toNat_le, shifted, Nat.one_shiftLeft]
      exact Nat.one_le_two_pow
    rw [UInt32.toNat_sub_of_le _ _ positive, shifted, Nat.one_shiftLeft]
    exact Nat.testBit_two_pow_sub_one count i

/-! ### Bits of masks -/

/-- The bits of a mask are those of the flags that satisfy the condition. -/
theorem testBit_maskOf {flags : List ResolvedOption} (few : ∀ flag ∈ flags, flag.value < 32)
    {condition : ResolvedOption → Bool} {i : Nat} :
    (maskOf flags condition).toNat.testBit i = true ↔
      ∃ flag ∈ flags, condition flag = true ∧ flag.value = i := by
  -- The bits that there are already are kept.
  have grown : ∀ (selected : List ResolvedOption), (∀ flag ∈ selected, flag.value < 32) →
      ∀ mask : UInt32,
        (selected.foldl (fun mask flag => mask ||| flag.bit) mask).toNat.testBit i = true ↔
          mask.toNat.testBit i = true ∨ ∃ flag ∈ selected, flag.value = i := by
    intro selected
    induction selected with
    | nil => simp
    | cons flag rest ih =>
      intro few mask
      obtain ⟨first, others⟩ := List.forall_mem_cons.mp few
      rw [List.foldl_cons, ih others, UInt32.toNat_or, Nat.testBit_or, testBit_bit first]
      simp [or_assoc]
  have selected :=
    grown (flags.filter condition) fun flag mem => few flag (List.mem_filter.mp mem).1
  rw [maskOf, selected 0]
  simp [and_assoc]

variable {constantPrefix : String} {records : List OptionRecord}

/-- An option is at the position that is its value. -/
theorem mem_options {o : ResolvedOption} : o ∈ options constantPrefix records ↔
    ∃ record, records[o.value]? = some record ∧ o = option constantPrefix o.value record := by
  rw [options, List.mem_mapIdx]
  constructor
  · rintro ⟨i, inside, rfl⟩
    exact ⟨records[i], List.getElem?_eq_getElem inside, rfl⟩
  · rintro ⟨record, found, same⟩
    obtain ⟨inside, rfl⟩ := List.getElem?_eq_some_iff.mp found
    exact ⟨o.value, inside, same.symm⟩

theorem length_options : (options constantPrefix records).length = records.length :=
  List.length_mapIdx

/-- There is a bit for each option of a bitfield. -/
theorem value_lt_of_mem_options (few : records.length ≤ 32) {o : ResolvedOption}
    (mem : o ∈ options constantPrefix records) : o.value < 32 := by
  obtain ⟨record, found, -⟩ := mem_options.mp mem
  exact Nat.lt_of_lt_of_le (List.getElem?_eq_some_iff.mp found).1 few

/-- A bit of a mask says whether the flag at that position is selected. -/
theorem testBit_maskOf_options (few : records.length ≤ 32) {condition : ResolvedOption → Bool}
    {selected : OptionDetail → Bool}
    (h : ∀ value record, condition (option constantPrefix value record) = selected record.detail)
    (i : Nat) :
    (maskOf (options constantPrefix records) condition).toNat.testBit i = true ↔
      ∃ flag, (records.map (·.detail))[i]? = some flag ∧ selected flag = true := by
  rw [testBit_maskOf fun o => value_lt_of_mem_options few, List.getElem?_map]
  constructor
  · rintro ⟨flag, mem, meets, rfl⟩
    obtain ⟨record, found, same⟩ := mem_options.mp mem
    rw [same, h] at meets
    exact ⟨record.detail, congrArg _ found, meets⟩
  · rintro ⟨flag, found, meets⟩
    obtain ⟨record, here, rfl⟩ := Option.map_eq_some_iff.mp found
    exact ⟨option constantPrefix i record, mem_options.mpr ⟨record, here, rfl⟩,
      (h i record).trans meets, rfl⟩

/-- What is left of a mask without the excluded flags. -/
theorem testBit_and_not_excluded (few : records.length ≤ 32) {mask : UInt32} {i : Nat}
    {selected : OptionDetail → Prop}
    (bits : mask.toNat.testBit i = true ↔
      ∃ flag, (records.map (·.detail))[i]? = some flag ∧ selected flag) :
    (mask &&& ~~~maskOf (options constantPrefix records) (·.excluded)).toNat.testBit i = true ↔
      ∃ flag, (records.map (·.detail))[i]? = some flag ∧ selected flag ∧ flag.excluded = false := by
  have excluded :
      (maskOf (options constantPrefix records) (·.excluded)).toNat.testBit i = true ↔
        ∃ flag, (records.map (·.detail))[i]? = some flag ∧ flag.excluded = true :=
    testBit_maskOf_options few (fun _ _ => rfl) i
  rw [UInt32.toNat_and, Nat.testBit_and, Bool.and_eq_true, bits, testBit_not, Bool.and_eq_true,
    Bool.not_eq_true', Bool.eq_false_iff, ne_eq, excluded]
  constructor
  · rintro ⟨⟨flag, found, meets⟩, -, included⟩
    refine ⟨flag, found, meets, Bool.eq_false_iff.mpr fun out => ?_⟩
    exact included ⟨flag, found, out⟩
  · rintro ⟨flag, found, meets, included⟩
    have inside := (List.getElem?_eq_some_iff.mp found).1
    rw [List.length_map] at inside
    refine ⟨⟨flag, found, meets⟩, decide_eq_true (Nat.lt_of_lt_of_le inside few), ?_⟩
    -- A bit stands for one flag, so that the excluded one would be the selected one.
    rintro ⟨other, found', out⟩
    cases found.symm.trans found'
    exact Bool.false_ne_true (included.symm.trans out)

/-! ### Bitfields -/

/-- A width that can store that many options is accepted, and no other. -/
theorem checkWidth_eq_ok_iff {name : String} {width count capacity : Nat} :
    checkWidth name width count capacity = .ok () ↔
      (width = 8 ∨ width = 16 ∨ width = 32) ∧ count ≤ capacity := by
  refine ⟨checkWidth_eq_ok, fun ⟨known, room⟩ => ?_⟩
  rw [checkWidth, if_neg (by omega), if_neg (by omega)]

variable {group : String} {record : BitfieldRecord} {b : ResolvedBitfield}

theorem exists_bitfield_iff : (∃ b, bitfield group record = .ok b) ↔
    (record.width = 8 ∨ record.width = 16 ∨ record.width = 32) ∧
      record.fields.length ≤ record.width := by
  constructor
  · rintro ⟨b, h⟩
    obtain ⟨⟨⟩, checked, -⟩ := Except.bind_eq_ok h
    exact checkWidth_eq_ok checked
  · intro fits
    have checked : checkWidth record.name _ _ _ = .ok () := checkWidth_eq_ok_iff.mpr fits
    exact ⟨_, by rw [bitfield, checked]; rfl⟩

/-- The masks of a bitfield that was resolved. -/
theorem masks_bitfield (h : bitfield group record = .ok b) :
    b.Masks (record.fields.map (·.detail)) := by
  obtain ⟨⟨⟩, checked, h⟩ := Except.bind_eq_ok h
  cases h
  obtain ⟨known, fits⟩ := checkWidth_eq_ok checked
  have few : record.fields.length ≤ 32 := by omega
  -- Every flag has its bit among the lowest.
  have declared (i : Nat) : (lowMask record.fields.length).toNat.testBit i = true ↔
      ∃ flag, (record.fields.map (·.detail))[i]? = some flag ∧ True := by
    rw [testBit_lowMask few, decide_eq_true_iff]
    simp [List.getElem?_eq_some_iff]
  rw [length_options]
  constructor
  case fits => rwa [List.length_map]
  case declared =>
    intro i
    rw [List.length_map]
    exact (declared i).trans (by simp [List.getElem?_eq_some_iff])
  case full =>
    intro i
    exact (testBit_and_not_excluded few (declared i)).trans (by simp)
  case cacheOnly =>
    intro i
    exact testBit_and_not_excluded few (testBit_maskOf_options few (fun _ _ => rfl) i)
  case readOnly =>
    intro i
    exact testBit_and_not_excluded few (testBit_maskOf_options few (fun _ _ => rfl) i)

end Resolve

namespace ResolvedBitfield.Masks

variable {b : ResolvedBitfield} {flags : List OptionDetail} (masks : b.Masks flags)
include masks

theorem full_subset : IsSubmask b.fullMask b.declaredMask := by
  refine isSubmask_of_testBit fun i bit => ?_
  obtain ⟨flag, found, -⟩ := (masks.full i).mp bit
  exact (masks.declared i).mpr (List.getElem?_eq_some_iff.mp found).1

theorem cacheOnly_subset : IsSubmask b.cacheOnlyMask b.fullMask := by
  refine isSubmask_of_testBit fun i bit => ?_
  obtain ⟨flag, found, -, included⟩ := (masks.cacheOnly i).mp bit
  exact (masks.full i).mpr ⟨flag, found, included⟩

theorem readOnly_subset : IsSubmask b.readOnlyMask b.fullMask := by
  refine isSubmask_of_testBit fun i bit => ?_
  obtain ⟨flag, found, -, included⟩ := (masks.readOnly i).mp bit
  exact (masks.full i).mpr ⟨flag, found, included⟩

/-- The bits of all flags are within the width. -/
theorem declared_lt : b.declaredMask < 1 <<< b.width := by
  rw [Nat.one_shiftLeft]
  refine Nat.lt_pow_two_of_testBit _ fun i beyond => ?_
  rw [Bool.eq_false_iff, ne_eq, masks.declared]
  have := masks.fits
  omega

end ResolvedBitfield.Masks

/-- Part of a mask is no greater than the mask. -/
theorem IsSubmask.le {mask whole : Nat} (h : IsSubmask mask whole) : mask ≤ whole :=
  h ▸ Nat.and_le_right

open Resolve in
/-- **Masks mean what they say.** A bitfield is rejected exactly if its width cannot be stored or
is not enough for its flags. Otherwise each bit of its masks says whether there is a flag at that
position, and whether that is not excluded, only in bundles, or not to be edited; the masks are no
wider than the bitfield, and each is part of the next. -/
theorem bitfield_masks (group : String) (record : BitfieldRecord) :
    ((∃ error, bitfield group record = .error error) ↔
      ¬ (record.width = 8 ∨ record.width = 16 ∨ record.width = 32) ∨
        record.width < record.fields.length) ∧
    ∀ b, bitfield group record = .ok b → b.width = record.width ∧
      b.Masks (record.fields.map (·.detail)) ∧
      (∀ mask ∈ [b.declaredMask, b.fullMask, b.cacheOnlyMask, b.readOnlyMask],
        mask < 1 <<< b.width) ∧
      IsSubmask b.cacheOnlyMask b.fullMask ∧ IsSubmask b.readOnlyMask b.fullMask ∧
      IsSubmask b.fullMask b.declaredMask := by
  constructor
  · have accepted := @exists_bitfield_iff group record
    rw [← Nat.not_le, ← not_and_or, ← accepted]
    cases bitfield group record <;> simp
  · intro b h
    have masks := masks_bitfield h
    have full := masks.full_subset
    have cacheOnly := masks.cacheOnly_subset
    have readOnly := masks.readOnly_subset
    refine ⟨(bitfield_eq_ok h).2.1, masks, ?_, cacheOnly, readOnly, full⟩
    -- Each mask is a part of the declared one, and so no greater.
    have declared := masks.declared_lt
    have within := Nat.lt_of_le_of_lt full.le declared
    simp only [List.forall_mem_cons]
    exact ⟨declared, within, Nat.lt_of_le_of_lt cacheOnly.le within,
      Nat.lt_of_le_of_lt readOnly.le within, nofun⟩

/-- A bitfield of thirty-two flags, of which one is excluded though it is only in bundles. -/
def Resolve.switches : BitfieldRecord where
  name := "Switches"
  width := 32
  fields := [
    .detailed { name := "legacy", excluded := true, cacheOnly := true },
    .detailed { name := "cache dirty", cacheOnly := true },
    .detailed { name := "locked", readOnly := true }] ++
    (List.range 29).map fun i => .bare s!"switch {i}"

theorem bitfield_masks_switches :
    ∃ b, Resolve.bitfield "switches" Resolve.switches = .ok b ∧
      b.declaredMask < 1 <<< 32 ∧ b.declaredMask = 0xFFFFFFFF ∧ b.fullMask = 0xFFFFFFFE ∧
      b.cacheOnlyMask = 2 ∧ b.readOnlyMask = 4 := by
  obtain ⟨-, resolved⟩ := bitfield_masks "switches" Resolve.switches
  have accepted : Resolve.bitfield "switches" Resolve.switches = .ok _ := rfl
  obtain ⟨width, -, bounds, -⟩ := resolved _ accepted
  exact ⟨_, accepted, width ▸ bounds _ (List.mem_cons_self ..), by decide +kernel,
    by decide +kernel, by decide +kernel, by decide +kernel⟩

end TagSchema
