import TagSchema.Proofs.Number.Arithmetic

/-!
# Sums of squares

Squares are rounded, and so is the sum each time that one is added to it. The terms are never
negative, so the relative error of the whole sum grows with the number of its terms only
(`near_sumOfSquares`). A sum that is finite has only finite terms, since a result of an infinite
operand is never finite.
-/

namespace TagSchema.Rounding

open Float.Model (Format UnpackedFloat totalExponent)
open Float.Model.UnpackedFloat

variable {format : Format} {a b : UnpackedFloat} {x y : ℝ}

/-! ### Finite results -/

/-- The unpacked number comes from a word. -/
def IsUnpacked (format : Format) (a : UnpackedFloat) : Prop := ∃ word, unpack format word = a

theorem isUnpacked_stored (a : UnpackedFloat) : IsUnpacked format (stored format a) := ⟨_, rfl⟩

theorem StandsFor.isUnpacked (h : StandsFor format a x) : IsUnpacked format a :=
  ⟨pack format a, h.stored_eq⟩

/-- The unpacked number is a finite number of the format. -/
def IsFinite (format : Format) (a : UnpackedFloat) : Prop := ∃ x, StandsFor format a x

/-- What comes from a word is no number, infinite, or finite. -/
theorem IsUnpacked.cases (h : IsUnpacked format a) (wide : 1 ≤ format.exponentBias) :
    a = .notANumber ∨ (∃ s, a = .infinity s) ∨ IsFinite format a := by
  obtain ⟨word, rfl⟩ := h
  exact unpack_cases wide word

theorem not_isFinite_notANumber : ¬IsFinite format (stored format .notANumber) := by
  rw [stored_notANumber]
  rintro ⟨_, ⟨⟩⟩

/-- Infinity, stored, is not finite. -/
theorem not_isFinite_infinity (s : Sign) : ¬IsFinite format (stored format (.infinity s)) := by
  rw [stored_infinity]
  rintro ⟨_, ⟨⟩⟩

/-- A result is finite and off by a unit in the last place, or infinite because the exact one is out
of range. -/
theorem Near.resolve (h : Near format a x) :
    (∃ r, StandsFor format a r ∧ |r - x| ≤ lastPlace format x) ∨
      ¬IsFinite format a ∧ 2 ^ format.exponentBias ≤ |x| := by
  obtain finite | ⟨⟨s, rfl⟩, large⟩ := h
  · exact .inl finite
  · exact .inr ⟨by rintro ⟨_, ⟨⟩⟩, large⟩

/-- In range it is finite. -/
theorem Near.of_lt (h : Near format a x) (inRange : |x| < 2 ^ format.exponentBias) :
    ∃ r, StandsFor format a r ∧ |r - x| ≤ lastPlace format x :=
  h.resolve.resolve_right fun ⟨_, large⟩ => absurd large (not_le.mpr inRange)

/-- A sum is finite only if both terms are: no infinities cancel out. -/
theorem isFinite_of_add (wide : 1 ≤ format.exponentBias) (ha : IsUnpacked format a)
    (hb : IsUnpacked format b)
    (h : IsFinite format (stored format (UnpackedFloat.add format a b))) :
    IsFinite format a ∧ IsFinite format b := by
  obtain rfl | ⟨s, rfl⟩ | finite := ha.cases wide
  · exact absurd h not_isFinite_notANumber
  · -- A sum with an infinity is infinite again, or no number.
    exfalso
    obtain rfl | ⟨s', rfl⟩ | ⟨y, zero | finite'⟩ := hb.cases wide
    · exact not_isFinite_notANumber h
    · rw [UnpackedFloat.add] at h
      split at h
      · exact not_isFinite_infinity s h
      · exact not_isFinite_notANumber h
    · exact not_isFinite_infinity s h
    · exact not_isFinite_infinity s h
  · obtain rfl | ⟨s', rfl⟩ | finite' := hb.cases wide
    · obtain ⟨x, zero | finite⟩ := finite <;> exact absurd h not_isFinite_notANumber
    · obtain ⟨x, zero | finite⟩ := finite <;> exact absurd h (not_isFinite_infinity s')
    · exact ⟨finite, finite'⟩

/-- A square is finite only if its root is. -/
theorem isFinite_of_square (wide : 1 ≤ format.exponentBias) (ha : IsUnpacked format a)
    (h : IsFinite format (stored format (UnpackedFloat.mul format a a))) : IsFinite format a := by
  obtain rfl | ⟨s, rfl⟩ | finite := ha.cases wide
  · exact absurd h not_isFinite_notANumber
  · exact absurd h (not_isFinite_infinity (s * s))
  · exact finite

/-! ### Sums -/

/-- A sum with a square added to it. -/
def addSquare (format : Format) (sum a : UnpackedFloat) : UnpackedFloat :=
  stored format (UnpackedFloat.add format sum (stored format (UnpackedFloat.mul format a a)))

/-- The terms of a finite sum are finite. -/
theorem isFinite_of_foldl (wide : 1 ≤ format.exponentBias) {terms : List UnpackedFloat}
    {sum : UnpackedFloat} (unpacked : ∀ a ∈ terms, IsUnpacked format a)
    (hsum : IsUnpacked format sum) (h : IsFinite format (terms.foldl (addSquare format) sum)) :
    IsFinite format sum ∧ ∀ a ∈ terms, IsFinite format a := by
  induction terms generalizing sum with
  | nil => exact ⟨h, by simp⟩
  | cons a terms ih =>
    obtain ⟨ha, unpacked⟩ := List.forall_mem_cons.mp unpacked
    obtain ⟨first, rest⟩ := ih unpacked (isUnpacked_stored _) h
    obtain ⟨finite, square⟩ := isFinite_of_add wide hsum (isUnpacked_stored _) first
    exact ⟨finite, List.forall_mem_cons.mpr ⟨isFinite_of_square wide ha square, rest⟩⟩

/-- Larger numbers have a larger unit in the last place. -/
theorem lastPlace_mono (hx : 0 ≤ x) (h : x ≤ y) : lastPlace format x ≤ lastPlace format y := by
  rw [lastPlace, lastPlace, abs_of_nonneg hx, abs_of_nonneg (hx.trans h)]
  gcongr

/-- A few units in the last place are no more than the number itself. -/
theorem mul_lastPlace_le (wide : 1 ≤ format.exponentBias) {c : ℝ} (hx : 0 ≤ x)
    (room : c ≤ 2 ^ format.mantissaBitsWithoutImplicit) : c * lastPlace format x ≤ x + 1 := by
  have least := minExponent_eq format
  have tiny : (2 : ℝ) ^ format.mantissaBitsWithoutImplicit * 2 ^ format.minExponent ≤ 1 := by
    rw [← zpow_natCast, ← zpow_add₀ two_ne_zero]
    exact zpow_le_one_of_nonpos₀ one_le_two (by omega)
  calc c * lastPlace format x
      ≤ 2 ^ format.mantissaBitsWithoutImplicit * lastPlace format x :=
        mul_le_mul_of_nonneg_right room (lastPlace_nonneg format x)
    _ = x + 2 ^ format.mantissaBitsWithoutImplicit * 2 ^ format.minExponent := by
        rw [lastPlace, abs_of_nonneg hx, mul_add, mul_div_cancel₀ _ (by positivity)]
    _ ≤ x + 1 := by gcongr

/-- A few units in the last place do not carry a number so far that the unit doubles. -/
theorem lastPlace_add_mul_le {c : ℝ} (hx : 0 ≤ x)
    (room : c ≤ 2 ^ format.mantissaBitsWithoutImplicit) (hy : |y| ≤ x + c * lastPlace format x) :
    lastPlace format y ≤ 2 * lastPlace format x := by
  calc lastPlace format y
      ≤ (x + c * lastPlace format x) / 2 ^ format.mantissaBitsWithoutImplicit +
          2 ^ format.minExponent := by
        rw [lastPlace]
        gcongr
    _ = lastPlace format x +
          c / 2 ^ format.mantissaBitsWithoutImplicit * lastPlace format x := by
        rw [lastPlace, abs_of_nonneg hx]
        ring
    _ ≤ lastPlace format x + 1 * lastPlace format x := by
        gcongr
        · exact lastPlace_nonneg format x
        · exact div_le_one_of_le₀ room (by positivity)
    _ = 2 * lastPlace format x := by ring

/-- The error of a sum grows by three units with each square: one is that of the square, one that of
the sum, and one for the error that is in the sum already. -/
theorem addSquare_near (wide : 1 ≤ format.exponentBias) {sum : UnpackedFloat} {z total : ℝ} {k : ℕ}
    (hsum : StandsFor format sum z) (htotal : 0 ≤ total)
    (off : |z - total| ≤ 3 * k * lastPlace format total) (ha : StandsFor format a x)
    (room : 3 * k + 1 ≤ 2 ^ format.mantissaBitsWithoutImplicit) :
    (∃ z', StandsFor format (addSquare format sum a) z' ∧
        |z' - (total + x * x)| ≤ 3 * (k + 1 : ℕ) * lastPlace format (total + x * x)) ∨
      ¬IsFinite format (addSquare format sum a) ∧
        2 ^ format.exponentBias ≤ 2 * (total + x * x) + 1 := by
  have square := mul_self_nonneg x
  have room' : (3 * k + 1 : ℝ) ≤ 2 ^ format.mantissaBitsWithoutImplicit := mod_cast room
  obtain ⟨p, hp, offSquare⟩ | ⟨infinite, large⟩ := (near_mul wide ha ha).resolve
  · -- The square is finite, so it is added with its own error to that of the sum.
    have offSum : |z + p - (total + x * x)| ≤
        (3 * k + 1) * lastPlace format (total + x * x) := by
      calc |z + p - (total + x * x)| = |(z - total) + (p - x * x)| := by ring_nf
        _ ≤ |z - total| + |p - x * x| := abs_add_le ..
        _ ≤ 3 * k * lastPlace format total + lastPlace format (x * x) := add_le_add off offSquare
        _ ≤ 3 * k * lastPlace format (total + x * x) + lastPlace format (total + x * x) := by
          gcongr
          · exact lastPlace_mono htotal (le_add_of_nonneg_right square)
          · exact lastPlace_mono square (le_add_of_nonneg_left htotal)
        _ = _ := by ring
    have size : |z + p| ≤ total + x * x + (3 * k + 1) * lastPlace format (total + x * x) := by
      have := abs_le.mp offSum
      rw [abs_le]
      constructor <;> linarith
    obtain ⟨z', hz', offLast⟩ | ⟨infinite, large⟩ := (near_add wide hsum hp).resolve
    · refine .inl ⟨z', hz', ?_⟩
      calc |z' - (total + x * x)| = |(z' - (z + p)) + (z + p - (total + x * x))| := by ring_nf
        _ ≤ |z' - (z + p)| + |z + p - (total + x * x)| := abs_add_le ..
        _ ≤ 2 * lastPlace format (total + x * x) +
            (3 * k + 1) * lastPlace format (total + x * x) :=
          add_le_add (offLast.trans (lastPlace_add_mul_le (add_nonneg htotal square) room' size))
            offSum
        _ = _ := by push_cast; ring
    · refine .inr ⟨infinite, ?_⟩
      have := mul_lastPlace_le wide (add_nonneg htotal square) room'
      linarith
  · -- The square is infinite already, and a sum with it is not finite either.
    refine .inr ⟨fun h => infinite ?_, ?_⟩
    · exact (isFinite_of_add wide hsum.isUnpacked (isUnpacked_stored _) h).2
    · rw [abs_of_nonneg square] at large
      linarith

/-- What a sum of squares comes to. -/
def sumOfSquares (xs : List ℝ) : ℝ := (xs.map fun x => x * x).sum

theorem sumOfSquares_cons (x : ℝ) (xs : List ℝ) :
    sumOfSquares (x :: xs) = x * x + sumOfSquares xs := by
  rw [sumOfSquares, List.map_cons, List.sum_cons, sumOfSquares]

theorem sumOfSquares_nonneg (xs : List ℝ) : 0 ≤ sumOfSquares xs :=
  List.sum_nonneg fun _ mem => by
    obtain ⟨x, -, rfl⟩ := List.mem_map.mp mem
    exact mul_self_nonneg x

/-- No square is larger than the sum. -/
theorem mul_self_le_sumOfSquares {xs : List ℝ} (mem : x ∈ xs) : x * x ≤ sumOfSquares xs := by
  refine List.single_le_sum ?_ _ (List.mem_map.mpr ⟨x, mem, rfl⟩)
  intro _ mem'
  obtain ⟨y, -, rfl⟩ := List.mem_map.mp mem'
  exact mul_self_nonneg y

theorem isUnpacked_of_mem {terms : List UnpackedFloat} {xs : List ℝ}
    (h : List.Forall₂ (StandsFor format) terms xs) : ∀ a ∈ terms, IsUnpacked format a := by
  induction h with
  | nil => simp
  | cons ha _ ih => exact List.forall_mem_cons.mpr ⟨ha.isUnpacked, ih⟩

/-- A sum of squares is off by a few units in its last place, or not finite because it is out of
range. -/
theorem foldl_addSquare_near (wide : 1 ≤ format.exponentBias) {terms : List UnpackedFloat}
    {xs : List ℝ} (hterms : List.Forall₂ (StandsFor format) terms xs) {sum : UnpackedFloat}
    {z total : ℝ} {k : ℕ} (hsum : StandsFor format sum z) (htotal : 0 ≤ total)
    (off : |z - total| ≤ 3 * k * lastPlace format total)
    (room : 3 * (k + xs.length) ≤ 2 ^ format.mantissaBitsWithoutImplicit) :
    (∃ z', StandsFor format (terms.foldl (addSquare format) sum) z' ∧
        |z' - (total + sumOfSquares xs)| ≤
          3 * (k + xs.length : ℕ) * lastPlace format (total + sumOfSquares xs)) ∨
      ¬IsFinite format (terms.foldl (addSquare format) sum) ∧
        2 ^ format.exponentBias ≤ 2 * (total + sumOfSquares xs) + 1 := by
  induction hterms generalizing sum z total k with
  | nil => exact .inl ⟨z, hsum, by simpa [sumOfSquares] using off⟩
  | @cons a x terms xs ha hterms ih =>
    rw [List.length_cons] at room
    rw [List.foldl_cons, List.length_cons, sumOfSquares_cons, ← add_assoc]
    obtain ⟨z', hz', off'⟩ | ⟨infinite, large⟩ :=
      addSquare_near wide hsum htotal off ha (by omega)
    · rw [Nat.add_comm xs.length, ← Nat.add_assoc]
      exact ih hz' (add_nonneg htotal (mul_self_nonneg x)) off' (by omega)
    · refine .inr ⟨fun h => infinite ?_, ?_⟩
      · exact (isFinite_of_foldl wide (isUnpacked_of_mem hterms) (isUnpacked_stored _) h).1
      · have := sumOfSquares_nonneg xs
        linarith

/-- The sum of the squares of numbers. -/
def sumSquares (format : Format) (terms : List UnpackedFloat) : UnpackedFloat :=
  terms.foldl (addSquare format) (.zero .positive)

/-- A sum of squares that starts from zero is off by three units in the last place for each of
them. -/
theorem sumSquares_near (wide : 1 ≤ format.exponentBias) {terms : List UnpackedFloat} {xs : List ℝ}
    (hterms : List.Forall₂ (StandsFor format) terms xs)
    (room : 3 * xs.length ≤ 2 ^ format.mantissaBitsWithoutImplicit) :
    (∃ z, StandsFor format (sumSquares format terms) z ∧
        |z - sumOfSquares xs| ≤ 3 * xs.length * lastPlace format (sumOfSquares xs)) ∨
      ¬IsFinite format (sumSquares format terms) ∧
        2 ^ format.exponentBias ≤ 2 * sumOfSquares xs + 1 := by
  have near := foldl_addSquare_near wide hterms (k := 0) (.zero .positive) le_rfl (by simp)
    (by omega)
  simp only [zero_add] at near
  exact near

/-- **A finite sum of squares** has finite terms, and is off by a few units in its last place. -/
theorem exists_of_sumSquares (wide : 1 ≤ format.exponentBias) {terms : List UnpackedFloat}
    (unpacked : ∀ a ∈ terms, IsUnpacked format a)
    (room : 3 * terms.length ≤ 2 ^ format.mantissaBitsWithoutImplicit) {z : ℝ}
    (h : StandsFor format (sumSquares format terms) z) :
    ∃ xs, List.Forall₂ (StandsFor format) terms xs ∧
      |z - sumOfSquares xs| ≤ 3 * xs.length * lastPlace format (sumOfSquares xs) := by
  have zero : IsUnpacked format (.zero .positive) := (StandsFor.zero .positive).isUnpacked
  obtain ⟨-, finite⟩ := isFinite_of_foldl wide unpacked zero ⟨z, h⟩
  choose! value hvalue using finite
  have hterms : List.Forall₂ (StandsFor format) terms (terms.map value) :=
    List.forall₂_map_right_iff.mpr (List.forall₂_same.mpr hvalue)
  refine ⟨_, hterms, ?_⟩
  obtain ⟨z', hz', off⟩ | ⟨infinite, -⟩ := sumSquares_near wide hterms (by simpa using room)
  · rwa [h.unique hz']
  · exact absurd ⟨z, h⟩ infinite

end TagSchema.Rounding
