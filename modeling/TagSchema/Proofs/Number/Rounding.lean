import TagSchema.Proofs.Number.Packing

/-!
# Rounding

An operation computes a mantissa that may be too long, or only the first bits of one, and rounds it
to the length that the format has. How the last bit is rounded does not matter here: the result is
off by at most one unit in the last place, or infinite because the number is out of range
(`near_roundWithAccuracy`).
-/

namespace TagSchema.Rounding

open Float.Model (Format UnpackedFloat totalExponent)
open Float.Model.UnpackedFloat

variable {format : Format}

/-! ### The last place -/

/-- How far a result may be off: one unit in its last place, or in that of the smallest numbers. -/
noncomputable def lastPlace (format : Format) (x : ℝ) : ℝ :=
  |x| / 2 ^ format.mantissaBitsWithoutImplicit + 2 ^ format.minExponent

/-- A result that is off by at most one unit in the last place, or infinite because the number is
out of range. -/
def Near (format : Format) (u : UnpackedFloat) (x : ℝ) : Prop :=
  (∃ r, StandsFor format u r ∧ |r - x| ≤ lastPlace format x) ∨
    (∃ s, u = .infinity s) ∧ 2 ^ format.exponentBias ≤ |x|

/-- The bits that are shifted out do not matter to the mantissa that is left. -/
theorem mantissa_shiftRight (em : ExtendedMantissa) (k : ℕ) :
    (em >>> k).mantissa = em.mantissa / 2 ^ k := by
  change (Nat.repeat ExtendedMantissa.shiftRightOne k em).mantissa = _
  induction k with
  | zero => simp [Nat.repeat]
  | succ k ih =>
    rw [Nat.repeat, ExtendedMantissa.shiftRightOne, ih, Nat.div_div_eq_div_mul, pow_succ]

/-- How accurate a mantissa is does not change it. -/
theorem mantissa_ofMantissaAndAccuracy (m : ℕ) (accuracy : Accuracy) :
    (ExtendedMantissa.ofMantissaAndAccuracy m accuracy).mantissa = m := by
  cases accuracy with
  | exact => rfl
  | inexact side => cases side <;> rfl

/-- Rounding takes the mantissa or the next one. -/
theorem roundedMantissa_bounds (em : ExtendedMantissa) :
    em.mantissa ≤ em.roundedMantissa ∧ em.roundedMantissa ≤ em.mantissa + 1 := by
  obtain ⟨m, round, sticky⟩ := em
  cases round <;> cases sticky <;>
    simp only [ExtendedMantissa.roundedMantissa, ExtendedMantissa.accuracy,
      Accuracy.roundToNearestEven] <;>
    omega

/-- A number is brought to the exponent at which its mantissa has all bits of the format, or to the
smallest. -/
theorem targetExponent_eq (format : Format) (m : ℕ) (e : ℤ) :
    format.targetExponent (totalExponent m e) =
      max (m.log2 + e - format.mantissaBitsWithoutImplicit) format.minExponent := by
  rw [Format.targetExponent, totalExponent, Format.mantissaBits]
  congr 1
  push_cast
  ring

/-- Bringing it there cuts off the bits below. -/
theorem mantissa_shiftToTargetExponent (m : ℕ) (e : ℤ) (accuracy : Accuracy) :
    (shiftToTargetExponent format m e accuracy).1.mantissa =
      m / 2 ^ (format.targetExponent (totalExponent m e) - e).toNat := by
  rw [shiftToTargetExponent, shiftToExponent, mantissa_shiftRight, mantissa_ofMantissaAndAccuracy]

/-- A number of its parts, which is zero if the mantissa is. -/
def assemble (s : Sign) (m : ℕ) (e : ℤ) : UnpackedFloat :=
  if h : m = 0 then .zero s else .finite s m e (Nat.pos_of_ne_zero h)

/-- A mantissa that is shifted to the exponent aimed at has no more bits than the format has room
for. -/
theorem shifted_lt {m : ℕ} {e t : ℤ} (ht : format.targetExponent (totalExponent m e) = t)
    (he : e ≤ t) : m / 2 ^ (t - e).toNat < 2 ^ format.mantissaBits := by
  have target := targetExponent_eq format m e
  rw [ht] at target
  rw [Nat.div_lt_iff_lt_mul (by positivity), ← pow_add, Format.mantissaBits]
  exact Nat.lt_log2_self.trans_le (Nat.pow_le_pow_right (by decide) (by omega))

/-- It has no fewer bits either, unless the number is one of the smallest. -/
theorem le_shifted {m : ℕ} {e t : ℤ} (ht : format.targetExponent (totalExponent m e) = t)
    (he : e ≤ t) :
    2 ^ format.mantissaBitsWithoutImplicit ≤ m / 2 ^ (t - e).toNat ∨ t = format.minExponent := by
  have hm := format.hm
  have target := targetExponent_eq format m e
  rw [ht] at target
  refine or_iff_not_imp_right.mpr fun other => ?_
  have log : m.log2 = format.mantissaBitsWithoutImplicit + (t - e).toNat := by omega
  rw [Nat.le_div_iff_mul_le (by positivity), ← pow_add, ← log]
  exact Nat.log2_self_le (by rintro rfl; simp at log; omega)

/-- A mantissa with one bit too many is the power of two that rounding up has led to, and loses
nothing when it is shifted once more. -/
theorem canonical_shiftToTargetExponent {n : ℕ} {t : ℤ} (short : n ≤ 2 ^ format.mantissaBits)
    (least : format.minExponent ≤ t)
    (full : 2 ^ format.mantissaBitsWithoutImplicit ≤ n ∨ t = format.minExponent) :
    Canonical format (shiftToTargetExponent format n t .exact).1.mantissa
        (shiftToTargetExponent format n t .exact).2 ∧
      ((shiftToTargetExponent format n t .exact).1.mantissa : ℝ) *
        2 ^ (shiftToTargetExponent format n t .exact).2 = n * 2 ^ t := by
  have exponent : (shiftToTargetExponent format n t .exact).2 =
      t + (format.targetExponent (totalExponent n t) - t).toNat := rfl
  rw [mantissa_shiftToTargetExponent, exponent, targetExponent_eq]
  rw [Format.mantissaBits] at short
  -- Only the mantissa that has carried all the way up has a bit too many.
  obtain less | rfl := short.lt_or_eq
  · have log : n.log2 ≤ format.mantissaBitsWithoutImplicit := by
      by_cases zero : n = 0
      · simp [zero]
      · have := (Nat.log2_lt zero).mpr less
        omega
    have none : (max (n.log2 + t - format.mantissaBitsWithoutImplicit) format.minExponent -
        t).toNat = 0 := by omega
    rw [none, pow_zero, Nat.div_one, Int.natCast_zero, add_zero]
    exact ⟨⟨less, least, full⟩, rfl⟩
  · have one : (max ((2 ^ (1 + format.mantissaBitsWithoutImplicit)).log2 + t -
        format.mantissaBitsWithoutImplicit) format.minExponent - t).toNat = 1 := by
      rw [Nat.log2_two_pow]
      omega
    have half : 2 ^ (1 + format.mantissaBitsWithoutImplicit) / 2 ^ 1 =
        2 ^ format.mantissaBitsWithoutImplicit := by
      rw [Nat.pow_div (by omega) (by decide), Nat.add_sub_cancel_left]
    rw [one, half, Int.natCast_one]
    refine ⟨⟨?_, by omega, .inl le_rfl⟩, ?_⟩
    · exact Nat.pow_lt_pow_right (by decide) (by rw [Format.mantissaBits]; omega)
    · rw [zpow_add_one₀ two_ne_zero, pow_add]
      push_cast
      ring

/-- The mantissa of a result is rounded up or down, and may then have one bit too many. -/
theorem exists_rounded (s : Sign) {m : ℕ} {e t : ℤ} (accuracy : Accuracy)
    (ht : format.targetExponent (totalExponent m e) = t) (he : e ≤ t) :
    ∃ (n : ℕ) (f : ℤ), Canonical format n f ∧
      (m / 2 ^ (t - e).toNat : ℕ) * (2 : ℝ) ^ t ≤ n * 2 ^ f ∧
      n * (2 : ℝ) ^ f ≤ ((m / 2 ^ (t - e).toNat : ℕ) + 1) * 2 ^ t ∧
      roundWithAccuracy format s m e accuracy = assemble s n f := by
  have short := shifted_lt ht he
  have full := le_shifted ht he
  have least : format.minExponent ≤ t := by
    rw [← ht, targetExponent_eq]
    exact le_max_right ..
  -- The mantissa is shifted twice: to the exponent of the format, and once more if rounding has
  -- carried.
  obtain ⟨em, first, shifted⟩ : ∃ em : ExtendedMantissa,
      shiftToTargetExponent format m e accuracy = (em, t) ∧
        em.mantissa = m / 2 ^ (t - e).toNat := by
    refine ⟨(shiftToTargetExponent format m e accuracy).1, Prod.ext rfl ?_, ?_⟩
    · simp only [shiftToTargetExponent, shiftToExponent, ht]
      omega
    · rw [mantissa_shiftToTargetExponent, ht]
  rw [← shifted] at short full ⊢
  obtain ⟨down, up⟩ := roundedMantissa_bounds em
  have result : roundWithAccuracy format s m e accuracy =
      assemble s (shiftToTargetExponent format em.roundedMantissa t .exact).1.mantissa
        (shiftToTargetExponent format em.roundedMantissa t .exact).2 := by
    rw [roundWithAccuracy, first]
    rfl
  obtain ⟨canonical, same⟩ := canonical_shiftToTargetExponent (up.trans short) least
    (full.imp_left (·.trans down))
  refine ⟨_, _, canonical, ?_, ?_, result⟩
  · rw [same]
    gcongr
  · rw [same]
    gcongr
    exact_mod_cast up

/-- The unit in the last place does not depend on the sign. -/
theorem lastPlace_signed (s : Sign) (x : ℝ) :
    lastPlace format (signed s x) = lastPlace format x := by
  rw [lastPlace, lastPlace, abs_signed]

theorem lastPlace_nonneg (format : Format) (x : ℝ) : 0 ≤ lastPlace format x := by
  rw [lastPlace]
  positivity

/-- A mantissa cut to the length that the format has loses less than one unit. -/
theorem two_zpow_le_lastPlace {m : ℕ} {e t : ℤ} {x : ℝ}
    (ht : format.targetExponent (totalExponent m e) = t) (he : e ≤ t) (lower : m * 2 ^ e ≤ x) :
    2 ^ t ≤ lastPlace format x := by
  have hm := format.hm
  rw [targetExponent_eq] at ht
  rw [lastPlace]
  -- At the smallest exponent the unit is that of the format; at any other one it is that of the
  -- first bit.
  by_cases least : t = format.minExponent
  · rw [least]
    exact le_add_of_nonneg_left (by positivity)
  · have nonzero : m ≠ 0 := by
      rintro rfl
      simp at ht
      omega
    have value : (2 : ℝ) ^ t * 2 ^ format.mantissaBitsWithoutImplicit = 2 ^ m.log2 * 2 ^ e := by
      rw [← zpow_natCast, ← zpow_natCast, ← zpow_add₀ two_ne_zero, ← zpow_add₀ two_ne_zero]
      congr 1
      omega
    have log : (2 : ℝ) ^ m.log2 ≤ m := mod_cast Nat.log2_self_le nonzero
    refine le_add_of_le_of_nonneg ?_ (by positivity)
    rw [le_div_iff₀ (by positivity), value]
    calc (2 : ℝ) ^ m.log2 * 2 ^ e ≤ m * 2 ^ e := by gcongr
      _ ≤ x := lower
      _ ≤ |x| := le_abs_self x

/-- A result that is off by one unit and out of range stands for a large number. -/
theorem le_of_overflow (wide : 1 ≤ format.exponentBias) {n : ℕ} {f : ℤ} {x : ℝ} (hx : 0 ≤ x)
    (canonical : Canonical format n f) (outOfRange : maxExponent format < f)
    (off : n * 2 ^ f - x ≤ lastPlace format x) : 2 ^ format.exponentBias ≤ x := by
  have hm := format.hm
  have least := minExponent_eq format
  rw [maxExponent] at outOfRange
  have full := canonical.full.resolve_right (by omega)
  -- A rounded number beyond the largest exponent is at least twice the limit; the exact one is off
  -- by less than half of that.
  have large : (2 : ℝ) ^ format.exponentBias * 2 ≤ n * 2 ^ f := by
    have full' : (2 : ℝ) ^ format.mantissaBitsWithoutImplicit ≤ n := mod_cast full
    calc (2 : ℝ) ^ format.exponentBias * 2
        ≤ 2 ^ format.mantissaBitsWithoutImplicit * 2 ^ f := by
          rw [← pow_succ, ← zpow_natCast, ← zpow_natCast, ← zpow_add₀ two_ne_zero]
          exact zpow_le_zpow_right₀ one_le_two (by push_cast; omega)
      _ ≤ n * 2 ^ f := by gcongr
  have last : lastPlace format x ≤ x / 2 + 2 ^ format.exponentBias / 2 := by
    rw [lastPlace, abs_of_nonneg hx]
    gcongr
    · exact le_self_pow₀ one_le_two (by omega)
    · rw [← zpow_natCast, div_eq_mul_inv, ← zpow_sub_one₀ two_ne_zero]
      exact zpow_le_zpow_right₀ one_le_two (by omega)
  linarith

/-- A canonical mantissa that is off by a unit in the last place makes a number that is near. -/
theorem near_assemble (wide : 1 ≤ format.exponentBias) (s : Sign) {n : ℕ} {f : ℤ} {x : ℝ}
    (hx : 0 ≤ x) (canonical : Canonical format n f)
    (off : |n * 2 ^ f - x| ≤ lastPlace format x) :
    Near format (stored format (assemble s n f)) (signed s x) := by
  rw [assemble]
  split
  next zero =>
    subst zero
    rw [stored_zero]
    refine .inl ⟨0, .zero s, ?_⟩
    rw [lastPlace_signed, ← signed_zero s, signed_sub, abs_signed]
    simpa using off
  next positive =>
    -- An exponent that does not fit gives infinity, and then the number is beyond all finite ones.
    by_cases inRange : f ≤ maxExponent format
    · rw [stored_finite s _ canonical inRange]
      refine .inl ⟨_, .finite s _ canonical inRange, ?_⟩
      rwa [signed_sub, abs_signed, lastPlace_signed]
    · rw [stored_overflow s _ (not_le.mp inRange), Near, abs_signed, abs_of_nonneg hx]
      exact .inr ⟨⟨s, rfl⟩,
        le_of_overflow wide hx canonical (not_le.mp inRange) ((le_abs_self _).trans off)⟩

/-- **Rounding is off by at most one unit in the last place.** The mantissa may be cut off already,
but it must have as many bits as the format has room for. -/
theorem near_roundWithAccuracy (wide : 1 ≤ format.exponentBias) (s : Sign) {m : ℕ} {e : ℤ} {x : ℝ}
    (accuracy : Accuracy) (lower : m * 2 ^ e ≤ x) (upper : x ≤ (m + 1) * 2 ^ e)
    (he : e ≤ format.targetExponent (totalExponent m e)) :
    Near format (stored format (roundWithAccuracy format s m e accuracy)) (signed s x) := by
  obtain ⟨t, ht⟩ : ∃ t, format.targetExponent (totalExponent m e) = t := ⟨_, rfl⟩
  rw [ht] at he
  obtain ⟨n, f, canonical, above, below, result⟩ := exists_rounded s accuracy ht he
  have last := two_zpow_le_lastPlace ht he lower
  obtain ⟨k, hk⟩ : ∃ k : ℕ, t = e + k := Int.le.dest he |>.imp fun _ h => h.symm
  obtain rfl : (t - e).toNat = k := by omega
  generalize (t - e).toNat = k at *
  have power : (2 : ℝ) ^ t = 2 ^ k * 2 ^ e := by
    rw [hk, zpow_add₀ two_ne_zero, zpow_natCast, mul_comm]
  -- Cutting off the bits below the target exponent loses less than a unit there, and rounding moves
  -- by one such unit at most.
  have cut : ((m / 2 ^ k : ℕ) : ℝ) * 2 ^ t ≤ m * 2 ^ e := by
    have := Nat.div_mul_le_self m (2 ^ k)
    rw [power, ← mul_assoc]
    gcongr
    exact_mod_cast this
  have uncut : (m + 1 : ℝ) * 2 ^ e ≤ ((m / 2 ^ k : ℕ) + 1) * 2 ^ t := by
    have := Nat.lt_mul_of_div_lt (Nat.lt_succ_self (m / 2 ^ k)) (Nat.two_pow_pos k)
    rw [power, ← mul_assoc]
    gcongr
    exact_mod_cast this
  rw [result]
  refine near_assemble wide s ((by positivity : (0 : ℝ) ≤ _).trans lower) canonical ?_
  refine (abs_le.mpr ⟨?_, ?_⟩).trans last <;> linarith

end TagSchema.Rounding
