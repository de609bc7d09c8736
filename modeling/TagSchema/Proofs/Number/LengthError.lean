import TagSchema.Proofs.Number.SumOfSquares

/-!
# Errors of a length

What becomes of a length when it is computed with small errors, divided by, and measured again. The
relative error is `u` for each operation and `η` is what a result may be off besides, if it is one
of the smallest numbers.
-/

namespace TagSchema.Rounding

variable {u η : ℝ}

/-- The square of a number that is off by a small part of itself is off by a few such parts. -/
theorem abs_mul_self_sub_le (hu : u ≤ 1 / 10) (hη : 0 ≤ η) (small : η ≤ u) {v y : ℝ}
    (off : |y - v| ≤ u * |v| + η) : |y * y - v * v| ≤ 4 * u * (v * v) + 3 * η := by
  -- The small term counts against the length itself, which its square bounds.
  have double : 2 * |v| ≤ 1 + v * v := by
    have := mul_self_nonneg (|v| - 1)
    have := abs_mul_abs_self v
    linarith
  have sum : |y + v| ≤ (2 + u) * |v| + η := by
    calc |y + v| = |(y - v) + 2 * v| := by ring_nf
      _ ≤ |y - v| + 2 * |v| := (abs_add_le _ _).trans_eq (by rw [abs_mul, abs_two])
      _ ≤ (2 + u) * |v| + η := by linarith
  have hu' : 0 ≤ u := hη.trans small
  have relative : u * (2 + u) + η * (1 + u) ≤ 4 * u := by nlinarith
  have absolute : 1 + u + η ≤ 3 := by linarith
  calc |y * y - v * v| = |y - v| * |y + v| := by rw [← abs_mul]; ring_nf
    _ ≤ (u * |v| + η) * ((2 + u) * |v| + η) := by gcongr
    _ = u * (2 + u) * (v * v) + η * (1 + u) * (2 * |v|) + η * η := by
        rw [← abs_mul_abs_self v]
        ring
    _ ≤ u * (2 + u) * (v * v) + η * (1 + u) * (1 + v * v) + η * η := by gcongr
    _ = (u * (2 + u) + η * (1 + u)) * (v * v) + (1 + u + η) * η := by ring
    _ ≤ 4 * u * (v * v) + 3 * η := by
        gcongr
        exact mul_self_nonneg v

/-- The reciprocal of a length times the length. -/
theorem abs_mul_sub_one_le (hu : 0 < u) (hu' : u ≤ 1 / 1000) {r d f : ℝ} (hr : 0 < r)
    (hd : |d - r| ≤ 2 * u * r) (hf : |f - 1 / d| ≤ 2 * u * (1 / d)) : |f * r - 1| ≤ 5 * u := by
  obtain ⟨below, above⟩ := abs_le.mp hd
  have pos : 0 < d := by nlinarith
  have unit : |f * d - 1| ≤ 2 * u := by
    have : f * d - 1 = (f - 1 / d) * d := by field_simp
    rw [this, abs_mul, abs_of_pos pos]
    calc |f - 1 / d| * d ≤ 2 * u * (1 / d) * d := by gcongr
      _ = 2 * u := by field_simp
  obtain ⟨low, high⟩ := abs_le.mp unit
  -- A reciprocal of the wrong sign would be off by more than all of it.
  have fpos : 0 < f := by
    by_contra neg
    nlinarith
  have scaled : |f * d - f * r| ≤ 2 * u * (f * r) := by
    rw [← mul_sub, abs_mul, abs_of_pos fpos]
    nlinarith
  obtain ⟨lower, upper⟩ := abs_le.mp scaled
  rw [abs_le]
  constructor
  · by_contra outside
    nlinarith
  · by_contra outside
    nlinarith

/-- Divided by a length that is off by a small part of itself, a sum of squares is one but for a
little more than that part. -/
theorem abs_scaled_sub_one_le (hu : 0 < u) (hu' : u ≤ 1 / 20000) {r f S : ℝ}
    (hfr : |f * r - 1| ≤ 5 * u) (hS : |r * r - S| ≤ 128 * u * S) :
    |f * f * S - 1| ≤ 140 * u := by
  have scaled : |(f * r) * (f * r) - f * f * S| ≤ 128 * u * (f * f * S) := by
    have : (f * r) * (f * r) - f * f * S = f * f * (r * r - S) := by ring
    rw [this, abs_mul, abs_of_nonneg (mul_self_nonneg f)]
    nlinarith [mul_self_nonneg f]
  generalize f * f * S = A at *
  generalize f * r = b at *
  obtain ⟨low, high⟩ := abs_le.mp hfr
  obtain ⟨lower, upper⟩ := abs_le.mp scaled
  have square : b * b ≤ 1 + 11 * u := by nlinarith
  have square' : 1 - 11 * u ≤ b * b := by nlinarith
  rw [abs_le]
  constructor
  · by_contra outside
    nlinarith
  · by_contra outside
    nlinarith

/-- The root of a number near one is half as far from one. -/
theorem abs_sqrt_sub_one_le {z : ℝ} (near : |z - 1| ≤ 1 / 1000) :
    |√z - 1| ≤ 51 / 100 * |z - 1| := by
  obtain ⟨low, -⟩ := abs_le.mp near
  have root : √z * √z = z := Real.mul_self_sqrt (by linarith)
  have large : 97 / 100 ≤ √z := Real.le_sqrt_of_sq_le (by linarith)
  have product : |√z - 1| * (√z + 1) = |z - 1| := by
    rw [← abs_of_pos (show 0 < √z + 1 by linarith), ← abs_mul]
    congr 1
    linear_combination root
  rw [← product]
  nlinarith [abs_nonneg (√z - 1)]

theorem abs_sumOfSquares_sub_le (hu : u ≤ 1 / 10) (hη : 0 ≤ η) (small : η ≤ u) {f : ℝ}
    {xs ys : List ℝ} (off : List.Forall₂ (fun x y => |y - x * f| ≤ u * |x * f| + η) xs ys) :
    |sumOfSquares ys - f * f * sumOfSquares xs| ≤
      4 * u * (f * f * sumOfSquares xs) + 3 * η * xs.length := by
  induction off with
  | nil => simp [sumOfSquares]
  | @cons x y xs ys head _ ih =>
    have step := abs_mul_self_sub_le hu hη small head
    rw [sumOfSquares_cons, sumOfSquares_cons, List.length_cons]
    push_cast
    calc |y * y + sumOfSquares ys - f * f * (x * x + sumOfSquares xs)|
        = |(y * y - x * f * (x * f)) + (sumOfSquares ys - f * f * sumOfSquares xs)| := by ring_nf
      _ ≤ _ := abs_add_le ..
      _ ≤ _ := add_le_add step ih
      _ = _ := by ring

end TagSchema.Rounding
