import TagSchema.Word
import TagSchema.Proofs.Number.Arithmetic

/-!
# Widening

Every finite number of single precision is one of double precision, so nothing is lost when a word
is widened (`standsFor_toFloat`).
-/

namespace TagSchema

open Float.Model (Format UnpackedFloat)
open Float.Model.UnpackedFloat
open Rounding

namespace BinaryFormat

/-! ### Writing -/

theorem roundDiv_mul (n : ℕ) {d : ℕ} (hd : 0 < d) : roundDiv (n * d) d = n := by
  rw [roundDiv, Nat.mul_div_cancel n hd, Nat.mul_mod_left]
  exact if_pos (.inl (by omega))

/-- A fraction with a full significand is its own nearest number. -/
theorem ofRatio_eq {format : BinaryFormat} {a b n : ℕ} {e : ℤ} (hb : 0 < b)
    (guess : (a.log2 : ℤ) - b.log2 - format.fractionBits = e) (least : format.leastExponent ≤ e)
    (full : format.implicitBit ≤ n)
    (exact : if 0 ≤ e then a = n * (b <<< e.toNat) else a <<< (-e).toNat = n * b) :
    format.ofRatio a b =
      min (((e - format.leastExponent).toNat <<< format.fractionBits) + n) format.infinity := by
  obtain ⟨num, den, shifted, hden, rfl⟩ : ∃ num den : ℕ,
      (if 0 ≤ e then (a, b <<< e.toNat) else (a <<< (-e).toNat, b)) = (num, den) ∧ 0 < den ∧
        num = n * den := by
    split at exact
    next sign => exact ⟨_, _, if_pos sign, Nat.shiftLeft_pos_iff.mpr hb, exact⟩
    next sign => exact ⟨_, _, if_neg sign, hb, exact⟩
  rw [ofRatio]
  simp only [guess, shifted, Nat.mul_div_cancel n hden, if_neg full.not_gt, max_eq_right least,
    roundDiv_mul n hden]

end BinaryFormat

namespace Rounding

/-! ### Words -/

/-- Bits side by side are digits in base `2 ^ k`. -/
theorem toNat_append_eq {n k : ℕ} (a : BitVec n) (b : BitVec k) :
    (a ++ b).toNat = a.toNat * 2 ^ k + b.toNat := by
  rw [BitVec.toNat_append, Nat.shiftLeft_eq, Nat.mul_comm, ← Nat.two_pow_add_eq_or_of_lt b.isLt]

def isNegative : Sign → Bool
  | .negative => true
  | .positive => false

/-- A packed word as a number: its sign, its exponent and its mantissa, one above the other. -/
theorem toNat_packComponents (format : Format) (s : Sign) (exponent : BitVec format.exponentBits)
    (mantissa : BitVec format.mantissaBitsWithoutImplicit) :
    (packComponents format s exponent mantissa).toNat =
      ((isNegative s).toNat * 2 ^ format.exponentBits + exponent.toNat) *
        2 ^ format.mantissaBitsWithoutImplicit + mantissa.toNat := by
  rw [packComponents, toNat_append_eq, toNat_append_eq]
  cases s <;> rfl

/-- What the parts of a finite number in single precision are read as. -/
theorem read_packComponents (s : Sign) {exponent : BitVec 8} (mantissa : BitVec 23)
    (finite : exponent.toNat ≠ 255) :
    BinaryFormat.single.read (packComponents .binary32 s exponent mantissa).toNat =
      if exponent.toNat = 0 then .finite (isNegative s) mantissa.toNat (-149) false
      else .finite (isNegative s) (2 ^ 23 + mantissa.toNat) (-149 + (exponent.toNat - 1))
        (mantissa.toNat = 0 ∧ 1 < exponent.toNat) := by
  have hmantissa : mantissa.toNat < 2 ^ 23 := mantissa.isLt
  have hexponent : exponent.toNat < 2 ^ 8 := exponent.isLt
  have word := toNat_packComponents .binary32 s exponent mantissa
  dsimp only at word
  generalize (packComponents .binary32 s exponent mantissa).toNat = bits at word
  have fraction : bits % 2 ^ 23 = mantissa.toNat := by omega
  have stored : bits / 2 ^ 23 % 2 ^ 8 = exponent.toNat := by omega
  have sign : decide (bits / 2 ^ 31 % 2 = 1) = isNegative s := by
    cases s <;> simp [isNegative] at word ⊢ <;> omega
  simp only [BinaryFormat.read, BinaryFormat.single, BinaryFormat.implicitBit,
    BinaryFormat.specialExponent, Nat.shiftRight_eq_div_pow, Nat.shiftLeft_eq, one_mul]
  rw [fraction, stored, if_neg (by simpa using finite), sign]
  rfl

/-- The word of a number in double precision whose mantissa is full. -/
theorem toNat_pack_double (s : Sign) {n : ℕ} {e : ℤ} (hn : 0 < n)
    (canonical : Canonical .binary64 n e) (full : 2 ^ 52 ≤ n) (inRange : e ≤ 971) :
    (pack .binary64 (.finite s n e hn)).toNat =
      BinaryFormat.double.signBit (isNegative s) + (((e + 1074).toNat <<< 52) + n) := by
  have least : -1074 ≤ e := canonical.least
  have short : n < 2 ^ 53 := canonical.short
  have bits := (canonical.log2_add_one_eq_iff hn).mpr full
  have bias : (Format.binary64.exponentBias : ℤ) = 1023 := rfl
  obtain ⟨k, hk⟩ : ∃ k : ℕ, (k : ℤ) = e + 1074 := ⟨_, Int.toNat_of_nonneg (by omega)⟩
  -- The stored exponent is one more than the shift, since the first bit of the mantissa is not
  -- stored but counted in.
  have biased : (e + (Format.binary64.exponentBias : ℤ) +
      (Format.binary64.mantissaBitsWithoutImplicit : ℕ)).toNat = k + 1 := by
    rw [bias]
    dsimp only
    omega
  rw [pack]
  dsimp only
  rw [biased, if_neg (by omega), if_pos bits, toNat_packComponents, ← hk]
  have sign : BinaryFormat.double.signBit (isNegative s) = (isNegative s).toNat * 2 ^ 63 := by
    cases s <;> rfl
  rw [BitVec.toNat_ofNat, BitVec.toNat_ofNat, sign, Int.toNat_natCast, Nat.shiftLeft_eq]
  dsimp only
  omega

/-- A number in single precision is one in double precision, with a longer mantissa. -/
theorem write_double (s : Sign) {m : ℕ} {e : ℤ} (hm : 0 < m) (short : m < 2 ^ 24)
    (least : -149 ≤ e) (inRange : e ≤ 104) (narrow : Bool) :
    ∃ (n : ℕ) (f : ℤ) (hn : 0 < n), Canonical .binary64 n f ∧ f ≤ 971 ∧
      (n * 2 ^ f : ℝ) = m * 2 ^ e ∧
      BinaryFormat.double.write (.finite (isNegative s) m e narrow) =
        (pack .binary64 (.finite s n f hn)).toNat := by
  have log : m.log2 < 24 := (Nat.log2_lt hm.ne').mpr short
  -- Double precision has more bits, so the mantissa is shifted up until it has all of them.
  obtain ⟨k, hk⟩ : ∃ k : ℕ, m.log2 + k = 52 := ⟨52 - m.log2, by omega⟩
  have longer : (m <<< k).log2 = 52 := (log2_shiftLeft hm k).trans hk
  have hn : 0 < m <<< k := Nat.shiftLeft_pos_iff.mpr hm
  obtain ⟨full, long⟩ := (Nat.log2_eq_iff hn.ne').mp longer
  have canonical : Canonical .binary64 (m <<< k) (e - k) :=
    ⟨long, show (-1074 : ℤ) ≤ e - k by omega, .inl full⟩
  refine ⟨m <<< k, e - k, hn, canonical, by omega, shiftLeft_mul_two_zpow m k e, ?_⟩
  rw [toNat_pack_double s hn canonical full (by omega), BinaryFormat.write]
  have inRange' : ((e - k + 1074).toNat <<< 52) + m <<< k ≤ BinaryFormat.double.infinity := by
    rw [show BinaryFormat.double.infinity = 2047 * 2 ^ 52 from rfl, Nat.shiftLeft_eq]
    omega
  -- The writer divides two integers; here they are the number and a power of two, so the quotient
  -- is exact.
  have ratio {a b : ℕ} (hb : 0 < b) (guess : (a.log2 : ℤ) - b.log2 - 52 = e - k)
      (exact : if 0 ≤ e - k then a = m <<< k * (b <<< (e - k).toNat)
        else a <<< (-(e - k)).toNat = m <<< k * b) :
      BinaryFormat.double.ofRatio a b = ((e - k + 1074).toNat <<< 52) + m <<< k :=
    (BinaryFormat.ofRatio_eq hb guess (show (-1074 : ℤ) ≤ e - k by omega) full exact).trans
      (min_eq_left inRange')
  have one : Nat.log2 1 = 0 := rfl
  rw [if_neg hm.ne']
  congr 1
  split
  next whole =>
    refine ratio one_pos ?_ ?_
    · rw [log2_shiftLeft hm, one]
      push_cast
      omega
    · split <;> simp only [Nat.shiftLeft_eq, one_mul, mul_one, mul_assoc, ← pow_add] <;>
        congr 2 <;> omega
  next fraction =>
    refine ratio (Nat.shiftLeft_pos_iff.mpr one_pos) ?_ ?_
    · rw [log2_shiftLeft one_pos, one]
      push_cast
      omega
    · rw [if_neg (by omega)]
      simp only [Nat.shiftLeft_eq, one_mul, mul_assoc, ← pow_add]
      congr 2
      omega

/-- A finite number of single precision, written in double precision, stands for the same number. -/
theorem standsFor_write (s : Sign) {m : ℕ} {e : ℤ} (hm : 0 < m) (short : m < 2 ^ 24)
    (least : -149 ≤ e) (inRange : e ≤ 104) (narrow : Bool) :
    StandsFor .binary64 (unpack .binary64 (BitVec.ofNat 64
      (BinaryFormat.double.write (.finite (isNegative s) m e narrow)))) (signed s (m * 2 ^ e)) := by
  obtain ⟨n, f, hn, canonical, inRange, value, written⟩ :=
    write_double s hm short least inRange narrow
  have word : BitVec.ofNat 64 (pack .binary64 (.finite s n f hn)).toNat =
      pack .binary64 (.finite s n f hn) :=
    BitVec.eq_of_toNat_eq (Nat.mod_eq_of_lt (BitVec.isLt _))
  rw [written, word, ← value]
  change StandsFor .binary64 (stored .binary64 _) _
  rw [stored_finite s hn canonical inRange]
  exact .finite s hn canonical inRange

/-- **Widening loses nothing.** -/
theorem standsFor_convert {word : BitVec 32} {x : ℝ}
    (h : StandsFor .binary32 (unpack .binary32 word) x) :
    StandsFor .binary64
      (unpack .binary64 (BitVec.ofNat 64 (BinaryFormat.single.convert .double word.toNat))) x := by
  obtain ⟨s, exponent, mantissa, rfl⟩ := exists_components .binary32 word
  have hmantissa : mantissa.toNat < 2 ^ 23 := mantissa.isLt
  have hexponent : exponent.toNat < 2 ^ 8 := exponent.isLt
  -- The last exponent is excluded: it is that of infinity and of what is no number.
  by_cases special : exponent.toNat = 255
  · obtain infinite | nothing := unpack_special .binary32 s mantissa
      (show exponent.toNat + 1 = 2 ^ 8 by omega)
    · rw [infinite] at h
      cases h
    · rw [nothing] at h
      cases h
  rw [BinaryFormat.convert, read_packComponents s mantissa special]
  split
  -- The smallest numbers of single precision are normal ones of double precision.
  next zero =>
    obtain rfl : exponent = 0 := BitVec.eq_of_toNat_eq (by simpa using zero)
    by_cases hm : mantissa.toNat = 0
    · obtain rfl : mantissa = 0 := BitVec.eq_of_toNat_eq (by simpa using hm)
      have unpacked : unpack .binary32 (packComponents .binary32 s 0 0) = .zero s :=
        unpack_packedZero
      rw [unpacked] at h
      cases h
      cases s <;> exact .zero _
    · have positive := Nat.pos_of_ne_zero hm
      rw [h.unique (standsFor_subnormal (by decide) s positive)]
      exact standsFor_write s positive (by omega) (by decide) (by decide) false
  next normal =>
    have lower : (exponent.toNat : ℤ) - (Format.binary32.exponentBias +
        Format.binary32.mantissaBitsWithoutImplicit) = -149 + (exponent.toNat - 1) := by
      change _ - ((127 : ℤ) + 23) = _
      omega
    rw [h.unique (standsFor_normal s mantissa normal (show _ < 2 ^ 8 by omega)), lower]
    exact standsFor_write s (by omega) (by omega) (by omega) (by omega) _

end Rounding

end TagSchema
