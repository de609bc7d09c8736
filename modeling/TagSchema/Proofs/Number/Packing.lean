import Mathlib

/-!
# Packing

A floating-point number is a sign, a mantissa and an exponent, packed into a word. A word loses
nothing of a number whose mantissa has the length that the format has and whose exponent is in range
(`stored_finite`), and every word that is unpacked is such a number, infinite or no number
(`unpack_cases`).
-/

namespace TagSchema.Rounding

open Float.Model (Format UnpackedFloat totalExponent)
open Float.Model.UnpackedFloat

variable {format : Format}

/-! ### Formats -/

theorem exponentBias_add_one (format : Format) :
    format.exponentBias + 1 = 2 ^ (format.exponentBits - 1) :=
  Nat.sub_add_cancel Nat.one_le_two_pow

/-- Half of the exponents are those up to the bias. -/
theorem two_pow_exponentBits (format : Format) :
    2 ^ format.exponentBits = 2 * (format.exponentBias + 1) := by
  rw [exponentBias_add_one, ← pow_succ', Nat.sub_add_cancel format.he]

/-- The exponent of the smallest numbers, whose mantissa is an integer here. -/
theorem minExponent_eq (format : Format) :
    format.minExponent = 1 - format.exponentBias - format.mantissaBitsWithoutImplicit := by
  have bias : (format.exponentBias : ℤ) + 1 = 2 ^ (format.exponentBits - 1) :=
    mod_cast exponentBias_add_one format
  rw [Format.minExponent, Format.mantissaBits, ← bias]
  push_cast
  ring

/-- The exponent of the largest numbers. -/
def maxExponent (format : Format) : ℤ := format.exponentBias - format.mantissaBitsWithoutImplicit

/-! ### Numbers -/

/-- A number with a sign. -/
def signed : Sign → ℝ → ℝ
  | .positive, x => x
  | .negative, x => -x

theorem abs_signed (s : Sign) (x : ℝ) : |signed s x| = |x| := by
  cases s
  · exact abs_neg x
  · rfl

theorem signed_sub (s : Sign) (x y : ℝ) : signed s x - signed s y = signed s (x - y) := by
  cases s
  · exact neg_sub_neg x y |>.trans (neg_sub x y).symm
  · rfl

theorem signed_zero (s : Sign) : signed s 0 = 0 := by
  cases s
  · exact neg_zero
  · rfl

/-- A mantissa and an exponent as the format has them: the mantissa is not too long, and it is as
long as it may be unless the exponent is the least one. -/
structure Canonical (format : Format) (m : ℕ) (e : ℤ) : Prop where
  short : m < 2 ^ format.mantissaBits
  least : format.minExponent ≤ e
  full : 2 ^ format.mantissaBitsWithoutImplicit ≤ m ∨ e = format.minExponent

/-- The unpacked number is a finite number of the format. -/
inductive StandsFor (format : Format) : UnpackedFloat → ℝ → Prop
  | zero (s : Sign) : StandsFor format (.zero s) 0
  | finite (s : Sign) {m : ℕ} {e : ℤ} (hm : 0 < m) (canonical : Canonical format m e)
      (inRange : e ≤ maxExponent format) :
      StandsFor format (.finite s m e hm) (signed s (m * 2 ^ e))

/-- No unpacked number stands for two. -/
theorem StandsFor.unique {u : UnpackedFloat} {x y : ℝ} (h : StandsFor format u x)
    (h' : StandsFor format u y) : x = y := by
  cases h <;> cases h' <;> rfl

/-- A finite number is below the first power of two that the format has no exponent for. -/
theorem StandsFor.abs_lt {u : UnpackedFloat} {x : ℝ} (h : StandsFor format u x) :
    |x| < 2 ^ (format.exponentBias + 1) := by
  cases h with
  | zero s =>
    rw [abs_zero]
    positivity
  | @finite s m e hm canonical inRange =>
    have short : (m : ℝ) < 2 ^ format.mantissaBits := mod_cast canonical.short
    rw [maxExponent] at inRange
    rw [abs_signed, abs_of_nonneg (by positivity)]
    calc (m : ℝ) * 2 ^ e < 2 ^ format.mantissaBits * 2 ^ e := by gcongr
      _ ≤ 2 ^ (format.exponentBias + 1) := by
          rw [← zpow_natCast, ← zpow_natCast, ← zpow_add₀ two_ne_zero, Format.mantissaBits]
          exact zpow_le_zpow_right₀ one_le_two (by push_cast; omega)

/-! ### Packing -/

/-- An unpacked number after it was packed into a word. -/
def stored (format : Format) (u : UnpackedFloat) : UnpackedFloat :=
  unpack format (pack format u)

@[simp] theorem stored_zero (s : Sign) : stored format (.zero s) = .zero s := unpack_packedZero

/-- What is no number is stored as such. -/
theorem stored_notANumber : stored format .notANumber = .notANumber := unpack_packedNaN

/-- Infinity is stored as such. -/
theorem stored_infinity (s : Sign) : stored format (.infinity s) = .infinity s := by
  simp [stored, pack, unpack, packedInfinity, unpackExponent_packComponents,
    unpackMantissa_packComponents, unpackSign_packComponents, Sign.ofBitVec_toBitVec]

/-- Every word is packed of a sign, an exponent and a mantissa. -/
theorem exists_components (format : Format) (b : BitVec format.numBits) :
    ∃ s exponent mantissa, packComponents format s exponent mantissa = b :=
  ⟨_, _, _, packComponents_unpackSign_unpackExponent_unpackMantissa b⟩

/-- The implicit bit in front of the stored ones. -/
theorem toNat_implicit {n : ℕ} (b : BitVec n) : (1#1 ++ b).toNat = 2 ^ n + b.toNat := by
  rw [BitVec.toNat_append, Nat.shiftLeft_eq, BitVec.toNat_ofNat, Nat.mul_comm,
    ← Nat.two_pow_add_eq_or_of_lt b.isLt]
  norm_num

/-- A word of any exponent but the first and the last is a number with one more bit than is
stored. -/
theorem unpack_normal (format : Format) (s : Sign) {exponent : BitVec format.exponentBits}
    (mantissa : BitVec format.mantissaBitsWithoutImplicit) (zero : exponent.toNat ≠ 0)
    (special : exponent.toNat + 1 < 2 ^ format.exponentBits) :
    unpack format (packComponents format s exponent mantissa) =
      .finite s (2 ^ format.mantissaBitsWithoutImplicit + mantissa.toNat)
        (exponent.toNat - (format.exponentBias + format.mantissaBitsWithoutImplicit))
        (Nat.add_pos_left (Nat.two_pow_pos _) _) := by
  have notAll : exponent ≠ -1#(format.exponentBits) := by
    rintro rfl
    rw [BitVec.neg_one_eq_allOnes, BitVec.toNat_allOnes] at special
    omega
  have notZero : exponent ≠ 0#(format.exponentBits) := by
    rintro rfl
    exact zero rfl
  simp only [unpack, unpackMantissa_packComponents, unpackExponent_packComponents,
    unpackSign_packComponents, Sign.ofBitVec_toBitVec, if_neg notAll, if_neg notZero,
    toNat_implicit]

/-- A word of the first exponent is a number without that bit, unless it is zero. -/
theorem unpack_subnormal (format : Format) (s : Sign)
    {mantissa : BitVec format.mantissaBitsWithoutImplicit} (hm : 0 < mantissa.toNat) :
    unpack format (packComponents format s 0 mantissa) =
      .finite s mantissa.toNat format.minExponent hm := by
  have notAll : (0 : BitVec format.exponentBits) ≠ -1#(format.exponentBits) := by
    intro all
    have := congrArg BitVec.toNat all
    rw [BitVec.neg_one_eq_allOnes, BitVec.toNat_allOnes] at this
    have := two_pow_exponentBits format
    simp at *
    omega
  have notZero : mantissa ≠ 0#(format.mantissaBitsWithoutImplicit) := by
    rintro rfl
    exact absurd hm (by simp)
  simp only [unpack, unpackMantissa_packComponents, unpackExponent_packComponents,
    unpackSign_packComponents, Sign.ofBitVec_toBitVec, if_neg notAll, dif_neg notZero]
  simp [minExponent_eq]
  ring

/-- A canonical mantissa has all bits of the format exactly if it has the first. -/
theorem Canonical.log2_add_one_eq_iff {m : ℕ} {e : ℤ} (h : Canonical format m e) (hm : 0 < m) :
    m.log2 + 1 = format.mantissaBits ↔ 2 ^ format.mantissaBitsWithoutImplicit ≤ m := by
  have short := (Nat.log2_lt hm.ne').mpr h.short
  rw [← Nat.le_log2 hm.ne']
  rw [Format.mantissaBits] at short ⊢
  omega

/-- A word loses nothing of a number that its format has, if it is in range. -/
theorem stored_finite (s : Sign) {m : ℕ} {e : ℤ} (hm : 0 < m) (canonical : Canonical format m e)
    (inRange : e ≤ maxExponent format) : stored format (.finite s m e hm) = .finite s m e hm := by
  have bias := two_pow_exponentBits format
  have least := canonical.least
  rw [maxExponent] at inRange
  rw [minExponent_eq] at least
  obtain ⟨biased, h⟩ : ∃ biased : ℕ,
      (biased : ℤ) = e + format.exponentBias + format.mantissaBitsWithoutImplicit :=
    ⟨_, Int.toNat_of_nonneg (by omega)⟩
  simp only [stored, pack, ← h, Int.toNat_natCast]
  rw [if_neg (by omega)]
  -- The first bit of a mantissa that has all its bits is not stored; the smallest exponent says
  -- that there is none.
  by_cases normal : 2 ^ format.mantissaBitsWithoutImplicit ≤ m
  · have exponent : (BitVec.ofNat format.exponentBits biased).toNat = biased := by
      rw [BitVec.toNat_ofNat, Nat.mod_eq_of_lt (by omega)]
    have mantissa : 2 ^ format.mantissaBitsWithoutImplicit +
        (BitVec.ofNat format.mantissaBitsWithoutImplicit m).toNat = m := by
      have short := canonical.short
      rw [Format.mantissaBits, Nat.pow_add, pow_one] at short
      rw [BitVec.toNat_ofNat, Nat.mod_eq_sub_mod normal, Nat.mod_eq_of_lt (by omega)]
      omega
    rw [if_pos ((canonical.log2_add_one_eq_iff hm).mpr normal),
      unpack_normal format s _ (by omega) (by omega)]
    congr 1
    rw [exponent, h]
    ring
  · have mantissa : (BitVec.ofNat format.mantissaBitsWithoutImplicit m).toNat = m := by
      rw [BitVec.toNat_ofNat, Nat.mod_eq_of_lt (by omega)]
    rw [if_neg fun long => normal ((canonical.log2_add_one_eq_iff hm).mp long)]
    refine (unpack_subnormal format s (by omega)).trans ?_
    congr 1
    exact (canonical.full.resolve_left normal).symm

/-- A finite number of the format is stored as it is. -/
theorem StandsFor.stored_eq {u : UnpackedFloat} {x : ℝ} (h : StandsFor format u x) :
    stored format u = u := by
  cases h with
  | zero s => exact stored_zero s
  | finite s hm canonical inRange => exact stored_finite s hm canonical inRange

/-- A number out of range becomes infinite. -/
theorem stored_overflow (s : Sign) {m : ℕ} {e : ℤ} (hm : 0 < m)
    (outOfRange : maxExponent format < e) :
    stored format (.finite s m e hm) = .infinity s := by
  have bias := two_pow_exponentBits format
  rw [maxExponent] at outOfRange
  have large : 2 ^ format.exponentBits ≤
      (e + format.exponentBias + format.mantissaBitsWithoutImplicit).toNat + 1 := by
    omega
  have infinite : pack format (.finite s m e hm) = pack format (.infinity s) := by
    simp only [pack]
    rw [if_pos large]
  rw [stored, infinite]
  exact stored_infinity s

/-- A word of the last exponent is infinite or no number. -/
theorem unpack_special (format : Format) (s : Sign) {exponent : BitVec format.exponentBits}
    (mantissa : BitVec format.mantissaBitsWithoutImplicit)
    (special : exponent.toNat + 1 = 2 ^ format.exponentBits) :
    unpack format (packComponents format s exponent mantissa) = .infinity s ∨
      unpack format (packComponents format s exponent mantissa) = .notANumber := by
  obtain rfl : exponent = -1#(format.exponentBits) := by
    refine BitVec.eq_of_toNat_eq ?_
    rw [BitVec.neg_one_eq_allOnes, BitVec.toNat_allOnes]
    omega
  simp only [unpack, unpackMantissa_packComponents, unpackExponent_packComponents,
    unpackSign_packComponents, Sign.ofBitVec_toBitVec, if_pos]
  split
  · exact .inl rfl
  · exact .inr rfl

/-- So a word of any exponent but the first and the last stands for a finite number. -/
theorem standsFor_normal (s : Sign) {exponent : BitVec format.exponentBits}
    (mantissa : BitVec format.mantissaBitsWithoutImplicit) (zero : exponent.toNat ≠ 0)
    (special : exponent.toNat + 1 < 2 ^ format.exponentBits) :
    StandsFor format (unpack format (packComponents format s exponent mantissa))
      (signed s ((2 ^ format.mantissaBitsWithoutImplicit + mantissa.toNat : ℕ) *
        2 ^ ((exponent.toNat : ℤ) -
          (format.exponentBias + format.mantissaBitsWithoutImplicit)))) := by
  have bias := two_pow_exponentBits format
  have least := minExponent_eq format
  have short := mantissa.isLt
  have bits : 2 ^ format.mantissaBits = 2 * 2 ^ format.mantissaBitsWithoutImplicit := by
    rw [Format.mantissaBits, Nat.pow_add, pow_one]
  rw [unpack_normal format s mantissa zero special]
  refine .finite s _ ⟨by omega, by omega, .inl (Nat.le_add_right ..)⟩ ?_
  rw [maxExponent]
  omega

/-- And so does a word of the first exponent whose mantissa is not zero. -/
theorem standsFor_subnormal (wide : 1 ≤ format.exponentBias) (s : Sign)
    {mantissa : BitVec format.mantissaBitsWithoutImplicit} (hm : 0 < mantissa.toNat) :
    StandsFor format (unpack format (packComponents format s 0 mantissa))
      (signed s (mantissa.toNat * 2 ^ format.minExponent)) := by
  have least := minExponent_eq format
  rw [unpack_subnormal format s hm]
  refine .finite s _ ⟨mantissa.isLt.trans_le ?_, le_rfl, .inr rfl⟩ ?_
  · exact Nat.pow_le_pow_right (by decide) (by rw [Format.mantissaBits]; omega)
  · rw [maxExponent]
    omega

/-- A word that is unpacked is no number, infinite, or a finite number of the format. -/
theorem unpack_cases (wide : 1 ≤ format.exponentBias) (b : BitVec format.numBits) :
    unpack format b = .notANumber ∨ (∃ s, unpack format b = .infinity s) ∨
      ∃ x, StandsFor format (unpack format b) x := by
  obtain ⟨s, exponent, mantissa, rfl⟩ := exists_components format b
  -- The greatest exponent is that of the infinities and of what is not a number.
  by_cases special : exponent.toNat + 1 < 2 ^ format.exponentBits
  · refine .inr (.inr ?_)
    by_cases zero : exponent.toNat = 0
    · obtain rfl : exponent = 0 := BitVec.eq_of_toNat_eq (by simpa using zero)
      by_cases hm : mantissa.toNat = 0
      · obtain rfl : mantissa = 0 := BitVec.eq_of_toNat_eq (by simpa using hm)
        have unpacked : unpack format (packComponents format s 0 0) = .zero s := unpack_packedZero
        exact ⟨0, unpacked ▸ .zero s⟩
      · exact ⟨_, standsFor_subnormal wide s (Nat.pos_of_ne_zero hm)⟩
    · exact ⟨_, standsFor_normal s mantissa zero special⟩
  · have := exponent.isLt
    obtain infinite | nothing := unpack_special format s mantissa
      (show exponent.toNat + 1 = _ by omega)
    · exact .inr (.inl ⟨s, infinite⟩)
    · exact .inl nothing

/-- What comes from a word is stored as it is, whatever it is. -/
theorem stored_unpack (format : Format) (wide : 1 ≤ format.exponentBias)
    (b : BitVec format.numBits) : stored format (unpack format b) = unpack format b := by
  obtain nothing | ⟨s, infinite⟩ | ⟨x, finite⟩ := unpack_cases wide b
  · rw [nothing, stored_notANumber]
  · rw [infinite, stored_infinity]
  · exact finite.stored_eq

end TagSchema.Rounding
