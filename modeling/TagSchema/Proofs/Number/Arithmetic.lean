import TagSchema.Proofs.Number.Rounding

/-!
# Arithmetic of floating-point numbers

Each operation computes its result exactly, or the first bits of it, and rounds it once. So it is
near the result that real numbers have.
-/

namespace TagSchema.Rounding

open Float.Model (Format UnpackedFloat totalExponent)
open Float.Model.UnpackedFloat

variable {format : Format} {a b : UnpackedFloat} {x y : ℝ}

/-- A number of the format stays what it is when it is stored, so it is near itself. -/
theorem StandsFor.near (h : StandsFor format a x) : Near format (stored format a) x := by
  rw [h.stored_eq]
  exact .inl ⟨x, h, by simpa using lastPlace_nonneg format x⟩

theorem signed_mul (s s' : Sign) (x y : ℝ) :
    signed (s * s') (x * y) = signed s x * signed s' y := by
  cases s <;> cases s'
  · exact (neg_mul_neg x y).symm
  · exact (neg_mul x y).symm
  · exact (mul_neg x y).symm
  · rfl

theorem signed_div (s s' : Sign) (x y : ℝ) :
    signed (s / s') (x / y) = signed s x / signed s' y := by
  cases s <;> cases s'
  · exact (neg_div_neg_eq x y).symm
  · exact (neg_div y x).symm
  · exact (div_neg x).symm
  · rfl

theorem signed_neg (s : Sign) (x : ℝ) : signed (-s) x = -signed s x := by
  cases s
  · exact (neg_neg x).symm
  · rfl

/-- A mantissa with a sign, as an integer, is the signed number. -/
theorem cast_apply (s : Sign) (m : ℕ) : ((s.apply m : ℤ) : ℝ) = signed s m := by
  cases s
  · exact Int.cast_neg _
  · rfl

theorem signed_mul_right (s : Sign) (x y : ℝ) : signed s x * y = signed s (x * y) := by
  cases s
  · exact neg_mul x y
  · rfl

/-! ### Longer mantissas -/

/-- A mantissa that is shifted up, with the exponent taken down as far, is the same number. -/
theorem shiftLeft_mul_two_zpow (m k : ℕ) (e : ℤ) :
    ((m <<< k : ℕ) : ℝ) * 2 ^ (e - k) = m * 2 ^ e := by
  rw [Nat.shiftLeft_eq, Nat.cast_mul, Nat.cast_pow, Nat.cast_ofNat, mul_assoc, ← zpow_natCast,
    ← zpow_add₀ two_ne_zero, add_sub_cancel]

/-- A shift by `k` adds `k` bits. -/
theorem log2_shiftLeft {m : ℕ} (hm : 0 < m) (k : ℕ) : (m <<< k).log2 = m.log2 + k := by
  obtain ⟨lower, upper⟩ := (Nat.log2_eq_iff hm.ne').mp rfl
  rw [Nat.shiftLeft_eq, Nat.log2_eq_iff (by positivity), Nat.add_right_comm, Nat.pow_add,
    Nat.pow_add _ _ k]
  exact ⟨Nat.mul_le_mul_right _ lower, Nat.mul_lt_mul_of_pos_right upper (Nat.two_pow_pos k)⟩

/-- A number with a lower exponent is the same number. -/
theorem decreaseExponent_eq (m : ℕ) {e f : ℤ} (h : f ≤ e) :
    ((decreaseExponent m e f).1 : ℝ) * 2 ^ f = m * 2 ^ e := by
  have exponent : e - (e - f).toNat = f := by omega
  have := shiftLeft_mul_two_zpow m (e - f).toNat e
  rwa [exponent] at this

/-- A rounded number is near the exact one, with its sign. -/
theorem near_round (wide : 1 ≤ format.exponentBias) (s : Sign) {m : ℕ} (hm : 0 < m) (e : ℤ) :
    Near format (stored format (UnpackedFloat.round format s m e)) (signed s (m * 2 ^ e)) := by
  have target := targetExponent_eq format m e
  rw [UnpackedFloat.round]
  dsimp only [decreaseExponent]
  generalize format.targetExponent (totalExponent m e) = t at *
  have value := shiftLeft_mul_two_zpow m (e - t).toNat e
  refine near_roundWithAccuracy wide s .exact value.le ?_ ?_
  · rw [← value]
    gcongr
    exact le_add_of_nonneg_right zero_le_one
  · rw [targetExponent_eq, log2_shiftLeft hm]
    omega

theorem near_zero (s : Sign) : Near format (stored format (.zero s)) 0 := (StandsFor.zero s).near

/-- The same for an integer mantissa, whose sign is its own. -/
theorem near_normalize (wide : 1 ≤ format.exponentBias) (m e : ℤ) (s : Sign) :
    Near format (stored format (UnpackedFloat.normalize format m e s)) (m * 2 ^ e) := by
  rw [UnpackedFloat.normalize]
  obtain negative | rfl | positive := lt_trichotomy m 0
  · have size : (((-m).toNat : ℕ) : ℝ) = -m := by
      exact_mod_cast Int.toNat_of_nonneg (by omega : 0 ≤ -m)
    have near := near_round wide .negative (by omega : 0 < (-m).toNat) e
    rw [Int.compare_eq_lt.mpr negative]
    rwa [size, signed, neg_mul, neg_neg] at near
  · rw [Int.cast_zero, zero_mul]
    exact near_zero s
  · have size : ((m.toNat : ℕ) : ℝ) = m := by
      exact_mod_cast Int.toNat_of_nonneg positive.le
    have near := near_round wide .positive (by omega : 0 < m.toNat) e
    rw [Int.compare_eq_gt.mpr positive]
    rwa [size] at near

/-- What is known of a result whose first bits are computed: it lies between the mantissa and the
next one, and the mantissa has as many bits as the format has room for. -/
structure Cut (format : Format) (m : ℕ) (e : ℤ) (x : ℝ) : Prop where
  lower : m * 2 ^ e ≤ x
  upper : x ≤ (m + 1) * 2 ^ e
  fills : e ≤ format.targetExponent (totalExponent m e)

/-- What is cut off after enough bits is rounded to a number near the exact one. -/
theorem Cut.near (wide : 1 ≤ format.exponentBias) (s : Sign) {m : ℕ} {e : ℤ} (accuracy : Accuracy)
    (h : Cut format m e x) :
    Near format (stored format (roundWithAccuracy format s m e accuracy)) (signed s x) :=
  near_roundWithAccuracy wide s accuracy h.lower h.upper h.fills

/-- A mantissa has bits enough if it fills the format, unless the exponent is the smallest. -/
theorem cut_of_full {m : ℕ} {e : ℤ} (lower : m * 2 ^ e ≤ x) (upper : x ≤ (m + 1) * 2 ^ e)
    (full : format.minExponent < e → 2 ^ format.mantissaBitsWithoutImplicit ≤ m) :
    Cut format m e x := by
  refine ⟨lower, upper, ?_⟩
  rw [targetExponent_eq]
  by_cases small : e ≤ format.minExponent
  · exact small.trans (le_max_right ..)
  · have := full (not_le.mp small)
    have := (Nat.le_log2 (by have := Nat.two_pow_pos format.mantissaBitsWithoutImplicit; omega)).mpr
      this
    omega

/-- The quotient of mantissas, cut off, is a cut of the exact quotient. -/
theorem cut_divCore {m m' q : ℕ} {e e' t : ℤ} {accuracy : Accuracy} (hm : 0 < m) (hm' : 0 < m')
    (h : divCore format m e m' e' = (q, t, accuracy)) :
    Cut format q t ((m * 2 ^ e) / (m' * 2 ^ e')) := by
  simp only [divCore, Prod.mk.injEq] at h
  obtain ⟨quotient, exponent, -⟩ := h
  rw [exponent] at quotient
  subst quotient
  obtain ⟨k, hk⟩ : ∃ k : ℕ, (k : ℤ) = e - e' - t := ⟨_, Int.toNat_of_nonneg (by omega)⟩
  rw [← hk, Int.toNat_natCast]
  have value : (m * 2 ^ e) / (m' * 2 ^ e') = ((m <<< k : ℕ) : ℝ) / m' * 2 ^ t := by
    rw [← shiftLeft_mul_two_zpow m k e, show e - k = t + e' by omega, zpow_add₀ two_ne_zero]
    field_simp
  rw [value]
  refine cut_of_full ?_ ?_ fun large => ?_
  · gcongr
    exact Nat.cast_div_le
  · gcongr
    rw [div_le_iff₀ (by positivity)]
    exact_mod_cast (Nat.lt_mul_of_div_lt (Nat.lt_succ_self _) hm').le
  · rw [Format.targetExponent, totalExponent, totalExponent, Format.mantissaBits] at exponent
    rw [Nat.le_div_iff_mul_le hm', Nat.shiftLeft_eq]
    -- The dividend was shifted far enough for the quotient to fill the mantissa.
    calc 2 ^ format.mantissaBitsWithoutImplicit * m'
        ≤ 2 ^ format.mantissaBitsWithoutImplicit * 2 ^ (m'.log2 + 1) :=
          Nat.mul_le_mul_left _ Nat.lt_log2_self.le
      _ ≤ 2 ^ m.log2 * 2 ^ k := by
          rw [← pow_add, ← pow_add]
          exact Nat.pow_le_pow_right (by decide) (by omega)
      _ ≤ m * 2 ^ k := Nat.mul_le_mul_right _ (Nat.log2_self_le hm.ne')

/-- The root of a mantissa, cut off, is a cut of the exact root. -/
theorem cut_sqrtCore {m q : ℕ} {e t : ℤ} {accuracy : Accuracy} (hm : 0 < m)
    (h : sqrtCore format m e = (q, t, accuracy)) : Cut format q t √(m * 2 ^ e) := by
  simp only [sqrtCore, Prod.mk.injEq] at h
  obtain ⟨root, exponent, -⟩ := h
  rw [exponent] at root
  subst root
  have half : t ≤ e / 2 := exponent ▸ min_le_left ..
  obtain ⟨k, hk⟩ : ∃ k : ℕ, (k : ℤ) = e - 2 * t := ⟨_, Int.toNat_of_nonneg (by omega)⟩
  rw [← hk, Int.toNat_natCast]
  -- The exponent of the shifted number is even, so that its half comes out of the root.
  have value : √(m * 2 ^ e) = √((m <<< k : ℕ) : ℝ) * 2 ^ t := by
    rw [← shiftLeft_mul_two_zpow m k e, show e - k = t + t by omega, zpow_add₀ two_ne_zero,
      Real.sqrt_mul (by positivity), Real.sqrt_mul_self (by positivity)]
  rw [value]
  refine cut_of_full ?_ ?_ fun large => ?_
  · gcongr
    exact Real.nat_sqrt_le_real_sqrt
  · gcongr
    exact Real.real_sqrt_lt_nat_sqrt_succ.le
  · have target : t ≤ format.targetExponent ((totalExponent m e + 1) / 2) :=
      exponent ▸ min_le_right ..
    rw [Format.targetExponent, totalExponent, Format.mantissaBits] at target
    rw [Nat.le_sqrt, Nat.shiftLeft_eq]
    calc 2 ^ format.mantissaBitsWithoutImplicit * 2 ^ format.mantissaBitsWithoutImplicit
        ≤ 2 ^ m.log2 * 2 ^ k := by
          rw [← pow_add, ← pow_add]
          exact Nat.pow_le_pow_right (by decide) (by omega)
      _ ≤ m * 2 ^ k := Nat.mul_le_mul_right _ (Nat.log2_self_le hm.ne')

/-! ### Sums and differences -/

section

variable (wide : 1 ≤ format.exponentBias) (ha : StandsFor format a x) (hb : StandsFor format b y)

include wide ha hb

/-- A sum is near the exact sum. -/
theorem near_add : Near format (stored format (UnpackedFloat.add format a b)) (x + y) := by
  cases ha with
  | zero s =>
    cases hb with
    | zero s' =>
      rw [add_zero, UnpackedFloat.add]
      split
      · exact near_zero s
      · exact near_zero .positive
    | finite s' hm' canonical' inRange' =>
      rw [zero_add]
      exact (StandsFor.finite s' hm' canonical' inRange').near
  | @finite s m e hm canonical inRange =>
    cases hb with
    | zero s' =>
      rw [add_zero]
      exact (StandsFor.finite s hm canonical inRange).near
    | @finite s' m' e' hm' canonical' inRange' =>
      -- Both mantissas are brought to the lower exponent, where their sum is exact, and then it is
      -- rounded once.
      have near := near_normalize wide
        (s.apply (decreaseExponent m e (min e e')).1 +
          s'.apply (decreaseExponent m' e' (min e e')).1)
        (min e e') .positive
      rwa [Int.cast_add, add_mul, cast_apply, cast_apply, signed_mul_right, signed_mul_right,
        decreaseExponent_eq m (min_le_left e e'),
        decreaseExponent_eq m' (min_le_right e e')] at near

/-- A difference is near the exact difference. -/
theorem near_sub : Near format (stored format (UnpackedFloat.sub format a b)) (x - y) := by
  cases ha with
  | zero s =>
    cases hb with
    | zero s' =>
      rw [sub_zero, UnpackedFloat.sub]
      split
      · exact near_zero s
      · exact near_zero .positive
    | finite s' hm' canonical' inRange' =>
      rw [zero_sub, ← signed_neg]
      exact (StandsFor.finite (-s') hm' canonical' inRange').near
  | @finite s m e hm canonical inRange =>
    cases hb with
    | zero s' =>
      rw [sub_zero]
      exact (StandsFor.finite s hm canonical inRange).near
    | @finite s' m' e' hm' canonical' inRange' =>
      -- As for sums: the difference is exact at the lower exponent, and rounded once.
      have near := near_normalize wide
        (s.apply (decreaseExponent m e (min e e')).1 -
          s'.apply (decreaseExponent m' e' (min e e')).1)
        (min e e') .positive
      rwa [Int.cast_sub, sub_mul, cast_apply, cast_apply, signed_mul_right, signed_mul_right,
        decreaseExponent_eq m (min_le_left e e'),
        decreaseExponent_eq m' (min_le_right e e')] at near

/-! ### Products and quotients -/

/-- A product is near the exact product. -/
theorem near_mul : Near format (stored format (UnpackedFloat.mul format a b)) (x * y) := by
  cases ha with
  | zero s =>
    rw [zero_mul]
    cases hb with
    | zero s' | finite s' hm' canonical' inRange' => exact near_zero (s * s')
  | @finite s m e hm canonical inRange =>
    cases hb with
    | zero s' =>
      rw [mul_zero]
      exact near_zero (s * s')
    | @finite s' m' e' hm' canonical' inRange' =>
      have value : (m * 2 ^ e) * (m' * 2 ^ e') = ((m * m' : ℕ) : ℝ) * 2 ^ (e + e') := by
        rw [zpow_add₀ two_ne_zero]
        push_cast
        ring
      rw [← signed_mul, value]
      refine near_roundWithAccuracy wide (s * s') .exact le_rfl ?_ ?_
      · gcongr
        exact le_add_of_nonneg_right zero_le_one
      · -- One of the factors has a full mantissa, or both have the least exponent.
        have hbits := format.hm
        have least := minExponent_eq format
        rw [targetExponent_eq]
        obtain full | smallest := canonical.full
        · have := (Nat.le_log2 (by positivity)).mpr (full.trans (Nat.le_mul_of_pos_right m hm'))
          omega
        obtain full | smallest' := canonical'.full
        · have := (Nat.le_log2 (by positivity)).mpr (full.trans (Nat.le_mul_of_pos_left m' hm))
          omega
        · omega

/-- A quotient is near the exact quotient, unless it is one by zero. -/
theorem near_div (nonzero : y ≠ 0) :
    Near format (stored format (UnpackedFloat.div format a b)) (x / y) := by
  cases hb with
  | zero s' => exact absurd rfl nonzero
  | @finite s' m' e' hm' canonical' inRange' =>
    cases ha with
    | zero s =>
      rw [zero_div]
      exact near_zero (s / s')
    | @finite s m e hm canonical inRange =>
      rw [UnpackedFloat.div]
      obtain ⟨⟨q, t, accuracy⟩, core⟩ : ∃ result, divCore format m e m' e' = result := ⟨_, rfl⟩
      rw [core, ← signed_div]
      exact (cut_divCore hm hm' core).near wide (s / s') accuracy

end

/-- A root is near the exact root, for numbers that are not negative. -/
theorem near_sqrt (wide : 1 ≤ format.exponentBias) (ha : StandsFor format a x) (hx : 0 ≤ x) :
    Near format (stored format (UnpackedFloat.sqrt format a)) √x := by
  cases ha with
  | zero s =>
    rw [Real.sqrt_zero]
    exact near_zero s
  | @finite s m e hm canonical inRange =>
    cases s with
    | negative =>
      have : (0 : ℝ) < m * 2 ^ e := by positivity
      rw [signed] at hx
      linarith
    | positive =>
      rw [UnpackedFloat.sqrt]
      obtain ⟨⟨q, t, accuracy⟩, core⟩ : ∃ result, sqrtCore format m e = result := ⟨_, rfl⟩
      rw [core]
      exact (cut_sqrtCore hm core).near wide .positive accuracy

/-! ### Comparison -/

/-- The absolute value is exact. -/
theorem StandsFor.abs (ha : StandsFor format a x) :
    StandsFor format (stored format (UnpackedFloat.abs a)) |x| := by
  cases ha with
  | zero s =>
    rw [abs_zero, UnpackedFloat.abs, stored_zero]
    exact .zero .positive
  | @finite s m e hm canonical inRange =>
    have nonneg : (0 : ℝ) ≤ m * 2 ^ e := by positivity
    rw [abs_signed, abs_of_nonneg nonneg, UnpackedFloat.abs, stored_finite _ hm canonical inRange]
    exact .finite .positive hm canonical inRange

/-- A number with a larger exponent is larger, since its mantissa is full. -/
theorem Canonical.lt_of_exponent_lt {m m' : ℕ} {e e' : ℤ} (h : Canonical format m e)
    (h' : Canonical format m' e') (less : e' < e) : (m' * 2 ^ e' : ℝ) < m * 2 ^ e := by
  -- The greater exponent is not the least, so that its mantissa has the leading bit.
  have full := h.full.resolve_right (by have := h'.least; omega)
  have short : (m' : ℝ) < 2 ^ format.mantissaBitsWithoutImplicit * 2 := by
    have := h'.short
    rw [Format.mantissaBits, Nat.add_comm, pow_succ] at this
    exact_mod_cast this
  calc (m' * 2 ^ e' : ℝ)
      < 2 ^ format.mantissaBitsWithoutImplicit * 2 * 2 ^ e' := by gcongr
    _ = 2 ^ format.mantissaBitsWithoutImplicit * 2 ^ (e' + 1) := by
        rw [zpow_add_one₀ two_ne_zero]
        ring
    _ ≤ m * 2 ^ e := by
        gcongr
        · exact_mod_cast full
        · exact one_le_two
        · omega

/-- Numbers that are not negative are compared as what they stand for. -/
theorem lt_of_lt (ha : StandsFor format a x) (hb : StandsFor format b y) (hx : 0 ≤ x) (h : x < y) :
    UnpackedFloat.lt a b = true := by
  cases hb with
  | zero s' => exact absurd hx (not_le.mpr h)
  | @finite s' m' e' hm' canonical' inRange' =>
    -- What is greater than a number that is not negative is positive.
    obtain rfl : s' = .positive := by
      cases s' with
      | positive => rfl
      | negative =>
        have : (0 : ℝ) < m' * 2 ^ e' := by positivity
        rw [signed] at h
        linarith
    cases ha with
    | zero s => rfl
    | @finite s m e hm canonical inRange =>
      have positive : (0 : ℝ) < m * 2 ^ e := by positivity
      cases s with
      | negative =>
        rw [signed] at hx
        linarith
      | positive =>
        rw [signed, signed] at h
        have order : (compare e e').then (compare m m') = .lt := by
          -- Exponents are compared before mantissas, which is right because both numbers are
          -- canonical.
          obtain less | rfl | greater := lt_trichotomy e e'
          · rw [Int.compare_eq_lt.mpr less]
            rfl
          · have : m < m' := by
              have := (mul_lt_mul_iff_of_pos_right (by positivity)).mp h
              exact_mod_cast this
            rw [Int.compare_eq_eq.mpr rfl, Nat.compare_eq_lt.mpr this]
            rfl
          · exact absurd h (canonical.lt_of_exponent_lt canonical' greater).not_gt
        rw [UnpackedFloat.lt, UnpackedFloat.compare, order]
        rfl

end TagSchema.Rounding
