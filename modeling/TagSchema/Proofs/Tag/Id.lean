import TagSchema.Tag.Id

/-!
# Identifiers of positions

The identifier of a position is never the null one, and its low half is the position, as long as
that has sixteen bits.
-/

namespace TagSchema.TagId

/-- The sixteen bits of a position that an identifier keeps. -/
theorem toNat_position (index : Nat) : (UInt32.ofNat index &&& 0xFFFF).toNat = index % 65536 := by
  have mask := Nat.and_two_pow_sub_one_eq_mod (index % UInt32.size) 16
  rw [UInt32.toNat_and, UInt32.toNat_ofNat']
  exact mask.trans (Nat.mod_mod_of_dvd index (by decide))

/-- The high half of an identifier is the position behind the salt, the low half the position. -/
theorem toNat_ofIndex (index : Nat) :
    (ofIndex index).code.toNat =
      (0xE174 + index % 65536) % 65536 * 65536 + index % 65536 := by
  have low := toNat_position index
  have lt : index % 65536 < 65536 := Nat.mod_lt _ (by decide)
  unfold ofIndex
  dsimp only
  have high : ((salt + (UInt32.ofNat index &&& 0xFFFF)) <<< 16).toNat =
      ((0xE174 + index % 65536) % 65536) <<< 16 := by
    rw [UInt32.toNat_shiftLeft, UInt32.toNat_add, low]
    simp only [Nat.shiftLeft_eq]
    have salted : salt.toNat = 0xE174 := rfl
    have shift : (16 : UInt32).toNat % 32 = 16 := rfl
    rw [salted, shift]
    omega
  rw [UInt32.toNat_or, high, low, ← Nat.shiftLeft_add_eq_or_of_lt (by omega), Nat.shiftLeft_eq]

/-- No position has the null identifier. -/
theorem isNull_ofIndex (index : Nat) : (ofIndex index).isNull = false := by
  refine decide_eq_false fun same => ?_
  have value := toNat_ofIndex index
  rw [same] at value
  have null : (null.code).toNat = 65535 * 65536 + 65535 := rfl
  rw [null] at value
  omega

/-- The identifier of a position names what is left of the position in sixteen bits. -/
theorem index?_ofIndex_mod (index : Nat) : (ofIndex index).index? = some (index % 65536) := by
  have mask := Nat.and_two_pow_sub_one_eq_mod (ofIndex index).code.toNat 16
  have low : ((ofIndex index).code &&& 0xFFFF).toNat = index % 65536 := by
    rw [UInt32.toNat_and]
    refine mask.trans ?_
    rw [toNat_ofIndex]
    omega
  rw [index?, isNull_ofIndex, if_neg (by decide), low]

/-- The identifier of a position of sixteen bits names that position. -/
theorem index?_ofIndex {index : Nat} (h : index < 65536) : (ofIndex index).index? = some index := by
  rw [index?_ofIndex_mod, Nat.mod_eq_of_lt h]

end TagSchema.TagId
