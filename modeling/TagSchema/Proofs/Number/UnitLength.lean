import TagSchema.Number.Normal
import TagSchema.Proofs.Number.LengthError
import TagSchema.Proofs.Number.Widening

/-!
# Unit length after normalizing

Normalizing divides by a length that is computed in single precision; the length of the result is
measured in double precision. Both are off by a few units in the last place of single precision,
which is far less than the tolerance. What is left of it is what the squared length may be off: the
result is of unit length if the squared length is near the sum of the squares
(`isNormalized_normalized`). It is as long as it is a normal number: neither zero nor too large, nor
so small that it has lost its last bits (`isAccurate_of_hasLength`).
-/

namespace TagSchema

open Float.Model (Format UnpackedFloat)
open Float.Model.UnpackedFloat
open Rounding

namespace Rounding

/-! ### Words -/

/-- The number in single precision. -/
def of32 (x : Float32) : UnpackedFloat := x.toModel.unpack

/-- The number in double precision. -/
def of64 (x : Float) : UnpackedFloat := x.toModel.unpack

/-- A number in double precision is what its bits are unpacked to. -/
theorem of64_ofBits (bits : UInt64) : of64 (.ofBits bits) = unpack .binary64 bits.toBitVec :=
  stored_unpack .binary64 (by decide) bits.toBitVec

theorem standsFor_one_single : StandsFor .binary32 (of32 1) 1 := by
  have canonical : Canonical .binary32 (2 ^ 23) (-23) := by
    constructor <;> decide
  have h := StandsFor.finite .positive (by decide) canonical (by decide)
  norm_num [signed] at h
  exact h

theorem standsFor_one_double : StandsFor .binary64 (of64 1) 1 := by
  have canonical : Canonical .binary64 (2 ^ 52) (-52) := by
    constructor <;> decide
  have h := StandsFor.finite .positive (by decide) canonical (by decide)
  norm_num [signed] at h
  exact h

/-- Whether a number in single precision is normal: its exponent is neither that of zero and the
smallest numbers nor that of infinity. -/
def isNormal (x : Float32) : Bool :=
  let exponent := (x.toBits.toNat >>> 23) % 256
  decide (0 < exponent ∧ exponent < 255)

/-- A normal number is finite, and as large as its exponent says at least. -/
theorem exists_of_isNormal {x : Float32} (h : isNormal x = true) :
    ∃ q, StandsFor .binary32 (of32 x) q ∧ 2 ^ (-126 : ℤ) ≤ |q| := by
  obtain ⟨s, exponent, mantissa, word⟩ := exists_components .binary32 x.toBits.toBitVec
  have hmantissa : mantissa.toNat < 2 ^ 23 := mantissa.isLt
  have hexponent : exponent.toNat < 2 ^ 8 := exponent.isLt
  have bits := toNat_packComponents .binary32 s exponent mantissa
  rw [word] at bits
  -- The exponent that the test looks at is the one that the word was packed with.
  have stored : x.toBits.toNat / 2 ^ 23 % 256 = exponent.toNat := by
    have : x.toBits.toNat = ((isNegative s).toNat * 2 ^ 8 + exponent.toNat) * 2 ^ 23 +
        mantissa.toNat := bits
    omega
  simp only [isNormal, Nat.shiftRight_eq_div_pow, stored, decide_eq_true_eq] at h
  have unpacked : of32 x = unpack .binary32 (packComponents .binary32 s exponent mantissa) :=
    congrArg (unpack .binary32) word.symm
  refine ⟨_, unpacked ▸ standsFor_normal s mantissa (by omega) (show _ < 2 ^ 8 by omega), ?_⟩
  rw [abs_signed, abs_of_nonneg (by positivity)]
  have full : (2 ^ 23 : ℝ) ≤ (2 ^ 23 + mantissa.toNat : ℕ) := mod_cast Nat.le_add_right ..
  calc (2 : ℝ) ^ (-126 : ℤ) = 2 ^ 23 * 2 ^ (-149 : ℤ) := by norm_num
    _ ≤ (2 ^ 23 + mantissa.toNat : ℕ) * 2 ^ ((exponent.toNat : ℤ) - (127 + 23)) := by
        gcongr
        · exact one_le_two
        · omega

theorem isUnpacked_of32 (x : Float32) : IsUnpacked .binary32 (of32 x) := ⟨_, rfl⟩

/-- A sum of squares in single precision, as it is computed from left to right. -/
theorem of32_sumSquares {α : Type} (f : α → Float32) (items : List α) :
    of32 (items.foldl (fun sum item => let x := f item; sum + x * x) 0) =
      sumSquares .binary32 (items.map fun item => of32 (f item)) := by
  have all (sum : Float32) :
      of32 (items.foldl (fun sum item => let x := f item; sum + x * x) sum) =
        (items.map fun item => of32 (f item)).foldl (addSquare .binary32) (of32 sum) := by
    induction items generalizing sum with
    | nil => rfl
    | cons item items ih => exact ih _
  exact all 0

/-- A sum of squares in double precision, as it is computed from left to right. -/
theorem of64_sumSquares {α : Type} (f : α → Float) (items : List α) :
    of64 (items.foldl (fun sum item => let x := f item; sum + x * x) 0) =
      sumSquares .binary64 (items.map fun item => of64 (f item)) := by
  have all (sum : Float) :
      of64 (items.foldl (fun sum item => let x := f item; sum + x * x) sum) =
        (items.map fun item => of64 (f item)).foldl (addSquare .binary64) (of64 sum) := by
    induction items generalizing sum with
    | nil => rfl
    | cons item items ih => exact ih _
  exact all 0

end Rounding

namespace MathType

variable {type : MathType}

/-- The squared length of the part of unit length, as normalizing computes it. -/
def squaredLength (type : MathType) (value : type.Value) : Float32 :=
  (type.normalPart value).foldl (fun sum word => let x := type.single word; sum + x * x) 0

/-- Whether the squared length is a normal number: neither zero nor too large, nor so small that it
has lost its last bits. -/
def hasLength (type : MathType) (value : type.Value) : Bool := isNormal (type.squaredLength value)

/-- The components are finite, and the squared length as normalizing computes it is off by less than
a part in 65536 of the sum of their squares. -/
def IsAccurate (type : MathType) (value : type.Value) : Prop :=
  ∃ (xs : List ℝ) (q : ℝ),
    List.Forall₂ (fun word x => StandsFor .binary32 (of32 (type.single word)) x)
      (type.normalPart value) xs ∧
    StandsFor .binary32 (of32 (type.squaredLength value)) q ∧
    |q - sumOfSquares xs| < sumOfSquares xs / 65536

/-- What has a part of unit length is made of numbers in single precision. -/
theorem component_of_normalizable (h : type.normalizable = true) : type.component = .f32 := by
  cases type <;> first | rfl | exact absurd h (by decide)

/-- No part of unit length has more than four components. -/
theorem normalCount_of_normalizable (h : type.normalizable = true) : type.normalCount ≤ 4 := by
  cases type <;> first | decide | exact absurd h (by decide)

/-- What normalizing multiplies by. -/
def factor (type : MathType) (value : type.Value) : Float32 := 1 / (type.squaredLength value).sqrt

/-- The word of a component after normalizing. -/
def divided (type : MathType) (value : type.Value) (word : type.component.Word) :
    type.component.Word :=
  BitVec.ofNat _ (type.single word * type.factor value).toBits.toNat

/-- A length that is not zero divides the components of the part of unit length, and no others. -/
theorem normalized_eq {value : type.Value}
    (nonzero : ((type.squaredLength value).sqrt == 0) = false) :
    type.normalized value = value.mapFinIdx fun i word _ =>
      if i < type.normalCount then type.divided value word else word := by
  have divide : (fun word : type.component.Word => BitVec.ofNat (8 * type.component.size)
      (if (type.squaredLength value).sqrt == 0 then 0
        else (type.single word * type.factor value).toBits.toNat)) = type.divided value :=
    funext fun word => congrArg (BitVec.ofNat _) (if_neg (Bool.eq_false_iff.mp nonzero))
  rw [← divide]
  rfl

/-- So the part of unit length is made of the divided components. -/
theorem normalPart_normalized {value : type.Value}
    (nonzero : ((type.squaredLength value).sqrt == 0) = false) :
    type.normalPart (type.normalized value) =
      (type.normalPart value).map (type.divided value) := by
  refine List.ext_getElem (by simp [normalPart]) fun i h h' => ?_
  simp only [normalPart, List.length_take, lt_min_iff] at h
  simp only [normalPart, List.getElem_take, List.getElem_map, Vector.getElem_toList,
    normalized_eq nonzero, Vector.getElem_mapFinIdx, if_pos h.1]

/-- A component in single precision is the same in double precision. -/
theorem standsFor_toFloat (h : type.component = .f32) {word : type.component.Word} {x : ℝ}
    (hx : StandsFor .binary32 (unpack .binary32 (BitVec.ofNat 32 word.toNat)) x) :
    StandsFor .binary64 (of64 (type.component.toFloat word)) x := by
  generalize type.component = component at h word
  subst h
  have small : (BitVec.ofNat 32 word.toNat).toNat = word.toNat := Nat.mod_eq_of_lt word.isLt
  have wide := standsFor_convert hx
  rw [small] at wide
  rw [Primitive.toFloat, of64_ofBits]
  exact wide

/-- A divided component is the product with the reciprocal of the length, with nothing lost in
storing it. -/
theorem unpack_divided (h : type.component = .f32) (value : type.Value)
    (word : type.component.Word) :
    unpack .binary32 (BitVec.ofNat 32 (type.divided value word).toNat) =
      of32 (type.single word * type.factor value) := by
  have width : 8 * type.component.size = 32 := by
    rw [h]
    rfl
  rw [divided, BitVec.toNat_ofNat, width]
  generalize type.single word * type.factor value = y
  refine congrArg (unpack .binary32) (BitVec.eq_of_toNat_eq ?_)
  rw [BitVec.toNat_ofNat, Nat.mod_mod]
  exact Nat.mod_eq_of_lt y.toBits.toBitVec.isLt

/-! ### Measuring -/

/-- Below four, a unit in the last place of double precision is next to nothing. -/
theorem lastPlace_double_le {x : ℝ} (hx : |x| ≤ 4) : lastPlace .binary64 x ≤ 1 / 2 ^ 49 := by
  have least : (2 : ℝ) ^ (-1074 : ℤ) ≤ 2 ^ (-50 : ℤ) :=
    zpow_le_zpow_right₀ one_le_two (by decide)
  calc lastPlace .binary64 x = |x| / 2 ^ 52 + 2 ^ (-1074 : ℤ) := rfl
    _ ≤ 4 / 2 ^ 52 + 2 ^ (-50 : ℤ) := by gcongr
    _ = 1 / 2 ^ 49 := by norm_num

theorem lt_two_pow_bias_double : (16 : ℝ) < 2 ^ Format.exponentBias .binary64 := by
  calc (16 : ℝ) = 2 ^ 4 := by norm_num
    _ < 2 ^ 1023 := pow_lt_pow_right₀ one_lt_two (by decide)

/-- A small result in double precision is off by next to nothing. -/
theorem exists_double {a : UnpackedFloat} {x : ℝ} (h : Near .binary64 a x) (hx : |x| ≤ 4) :
    ∃ r, StandsFor .binary64 a r ∧ |r - x| ≤ 1 / 2 ^ 49 := by
  have range := lt_two_pow_bias_double
  obtain ⟨r, hr, off⟩ := h.of_lt (by linarith)
  exact ⟨r, hr, off.trans (lastPlace_double_le hx)⟩

/-- The tolerance is exactly this number. -/
theorem standsFor_normalTolerance :
    StandsFor .binary64 (of64 normalTolerance) (5902958103587057 / 2 ^ 69) := by
  have canonical : Canonical .binary64 5902958103587057 (-69) := by
    constructor <;> decide
  have h := StandsFor.finite .positive (by decide) canonical (by decide)
  norm_num [signed] at h ⊢
  exact h

/-- A sum of a few squares in double precision is off by next to nothing. -/
theorem exists_sumSquares_double {us : List UnpackedFloat} {ys : List ℝ}
    (hys : List.Forall₂ (StandsFor .binary64) us ys) (few : ys.length ≤ 4)
    (size : |sumOfSquares ys| ≤ 4) :
    ∃ z, StandsFor .binary64 (sumSquares .binary64 us) z ∧
      |z - sumOfSquares ys| ≤ 12 * (1 / 2 ^ 49) := by
  obtain ⟨z, hz, off⟩ | ⟨-, large⟩ := sumSquares_near (by decide) hys (show _ ≤ 2 ^ 52 by omega)
  · refine ⟨z, hz, off.trans ?_⟩
    have few' : (ys.length : ℝ) ≤ 4 := mod_cast few
    have last := lastPlace_double_le size
    have := lastPlace_nonneg .binary64 (sumOfSquares ys)
    nlinarith
  · have range := lt_two_pow_bias_double
    have := (abs_le.mp size).2
    linarith

/-- A squared length that is one, but for a part in 65536 and a few units in the last place of
single precision, is near enough to one. -/
theorem isNormalized_of_sum {value : type.Value} {ys : List ℝ}
    (hys : List.Forall₂ (fun word y => StandsFor .binary64 (of64 (type.component.toFloat word)) y)
      (type.normalPart value) ys)
    (few : ys.length ≤ 4) (near : |sumOfSquares ys - 1| ≤ 145 / 2 ^ 23) :
    type.isNormalized value = true := by
  obtain ⟨low, high⟩ := abs_le.mp near
  have terms : List.Forall₂ (StandsFor .binary64)
      ((type.normalPart value).map fun word => of64 (type.component.toFloat word)) ys :=
    List.forall₂_map_left_iff.mpr hys
  obtain ⟨z, hz, offSum⟩ := exists_sumSquares_double terms few (by
    rw [abs_le]
    constructor <;> linarith)
  rw [← of64_sumSquares] at hz
  obtain ⟨below, above⟩ := abs_le.mp offSum
  have hz' : 0 ≤ z := by linarith
  have square : |z - 1| ≤ 145 / 2 ^ 23 + 12 * (1 / 2 ^ 49) := by
    rw [abs_le]
    constructor <;> linarith
  -- The tolerance is on the length, so the square may be off by twice as much.
  have root := abs_sqrt_sub_one_le (square.trans (by norm_num))
  obtain ⟨lower, upper⟩ := abs_le.mp (root.trans (mul_le_mul_of_nonneg_left square (by norm_num)))
  obtain ⟨scale, hscale, offScale⟩ : ∃ scale, StandsFor .binary64 (of64 (type.scale value)) scale ∧
      |scale - √z| ≤ 1 / 2 ^ 49 :=
    exists_double (near_sqrt (by decide) hz hz') (by rw [abs_le]; constructor <;> linarith)
  obtain ⟨lower', upper'⟩ := abs_le.mp offScale
  obtain ⟨rest, hrest, offRest⟩ : ∃ rest,
      StandsFor .binary64 (of64 (1 - type.scale value)) rest ∧ |rest - (1 - scale)| ≤ 1 / 2 ^ 49 :=
    exists_double (near_sub (by decide) standsFor_one_double hscale)
      (by rw [abs_le]; constructor <;> linarith)
  obtain ⟨lower'', upper''⟩ := abs_le.mp offRest
  have less : |rest| < 5902958103587057 / 2 ^ 69 := by
    rw [abs_lt]
    constructor <;> linarith
  refine decide_eq_true ?_
  change Float.lt _ _ = true
  rw [Float.lt, decide_eq_true_iff]
  exact lt_of_lt hrest.abs standsFor_normalTolerance (abs_nonneg rest) less

/-! ### Dividing -/

theorem lastPlace_single (x : ℝ) :
    lastPlace .binary32 x = 1 / 2 ^ 23 * |x| + 2 ^ (-149 : ℤ) := by
  rw [one_div, inv_mul_eq_div]
  rfl

theorem lt_two_pow_bias_single : (2 : ℝ) ^ 80 < 2 ^ Format.exponentBias .binary32 := by
  rw [show Format.exponentBias .binary32 = 127 from rfl]
  exact pow_lt_pow_right₀ one_lt_two (by decide)

/-- A positive number in single precision is no smaller than the smallest one. -/
theorem least_le_of_pos {a : UnpackedFloat} {x : ℝ} (h : StandsFor .binary32 a x) (pos : 0 < x) :
    2 ^ (-149 : ℤ) ≤ x := by
  cases h with
  | zero s => exact absurd pos (lt_irrefl 0)
  | @finite s m e hm canonical inRange =>
    have one : (1 : ℝ) ≤ m := mod_cast hm
    have least : (-149 : ℤ) ≤ e := canonical.least
    cases s with
    | negative => exact absurd pos (not_lt.mpr (neg_nonpos.mpr (by positivity)))
    | positive =>
      calc (2 : ℝ) ^ (-149 : ℤ) ≤ 2 ^ e := zpow_le_zpow_right₀ one_le_two least
        _ ≤ m * 2 ^ e := le_mul_of_one_le_left (by positivity) one

/-- A positive number is not equal to zero. -/
theorem beq_zero_of_pos {x : Float32} {d : ℝ} (h : StandsFor .binary32 (of32 x) d) (pos : 0 < d) :
    (x == 0) = false := by
  change UnpackedFloat.beq (of32 x) (.zero .positive) = false
  generalize of32 x = a at h
  cases h with
  | zero s => exact absurd pos (lt_irrefl 0)
  | finite s hm canonical inRange => cases s <;> rfl

/-- A normal number has not lost its last bits. -/
theorem least_le_of_normal {x : ℝ} (h : 2 ^ (-126 : ℤ) ≤ x) : 2 ^ (-149 : ℤ) ≤ 1 / 2 ^ 23 * x := by
  calc (2 : ℝ) ^ (-149 : ℤ) = 1 / 2 ^ 23 * 2 ^ (-126 : ℤ) := by norm_num
    _ ≤ 1 / 2 ^ 23 * x := by gcongr

/-- A result in single precision that is normal, and not too large, is off by two units in the last
place at most. -/
theorem exists_single {a : UnpackedFloat} {x : ℝ} (h : Near .binary32 a x)
    (low : 2 ^ (-126 : ℤ) ≤ x) (high : x ≤ 2 ^ 80) :
    ∃ r, StandsFor .binary32 a r ∧ |r - x| ≤ 2 * (1 / 2 ^ 23) * x := by
  have range := lt_two_pow_bias_single
  have size : |x| = x := abs_of_nonneg (le_trans (by positivity) low)
  obtain ⟨r, hr, off⟩ := h.of_lt (by linarith)
  have tiny := least_le_of_normal low
  rw [lastPlace_single, size] at off
  exact ⟨r, hr, by linarith only [off, tiny]⟩

/-- The reciprocal of the length is what it ought to be, but for a few units in the last place. The
squared length may be one of the smallest numbers: its root is a normal number nevertheless. -/
theorem exists_reciprocal {x : Float32} {q : ℝ} (hq : StandsFor .binary32 (of32 x) q)
    (pos : 0 < q) :
    (x.sqrt == 0) = false ∧ ∃ f, StandsFor .binary32 (of32 (1 / x.sqrt)) f ∧
      |f * √q - 1| ≤ 5 * (1 / 2 ^ 23) := by
  have low : 2 ^ (-75 : ℤ) ≤ √q := by
    refine Real.le_sqrt_of_sq_le (le_trans ?_ (least_le_of_pos hq pos))
    norm_num
  have small : |q| < 2 ^ 128 := hq.abs_lt
  have high : √q ≤ 2 ^ 64 := by
    refine Real.sqrt_le_iff.mpr ⟨by positivity, ((le_abs_self q).trans small.le).trans_eq ?_⟩
    norm_num
  obtain ⟨d, hd, offRoot⟩ := exists_single (near_sqrt (by decide) hq pos.le)
    ((zpow_le_zpow_right₀ one_le_two (by decide)).trans low) (high.trans (by norm_num))
  generalize √q = r at *
  obtain ⟨below, above⟩ := abs_le.mp offRoot
  -- Neither the length nor its reciprocal is so small that its last bits are lost.
  have hd' : 2 ^ (-76 : ℤ) ≤ d := by
    norm_num at low ⊢
    linarith
  have hd'' : d ≤ 2 ^ 65 := by
    linarith
  have positive : 0 < d := lt_of_lt_of_le (by positivity) hd'
  have inverse : 1 / d ≤ 2 ^ 80 := by
    rw [div_le_iff₀ positive]
    norm_num at hd' ⊢
    linarith
  have inverse' : 2 ^ (-126 : ℤ) ≤ 1 / d := by
    rw [le_div_iff₀ positive]
    norm_num
    linarith
  obtain ⟨f, hf, offInverse⟩ :=
    exists_single (near_div (by decide) standsFor_one_single hd positive.ne') inverse' inverse
  have hr : 0 < r := lt_of_lt_of_le (by positivity) low
  exact ⟨beq_zero_of_pos hd positive, f, hf,
    abs_mul_sub_one_le (by norm_num) (by norm_num) (by linarith) offRoot offInverse⟩

/-- **A squared length that is a normal number is accurate**: neither zero nor too large, and with
all of its bits, it is the sum of the squares but for a few units in the last place. -/
theorem isAccurate_of_hasLength (h : type.normalizable = true) {value : type.Value}
    (length : type.hasLength value = true) : type.IsAccurate value := by
  obtain ⟨q, hq, large⟩ := exists_of_isNormal length
  have terms : (type.normalPart value).length ≤ 4 := by
    have few := normalCount_of_normalizable h
    rw [normalPart, List.length_take]
    omega
  have sum := hq
  rw [squaredLength, of32_sumSquares] at sum
  obtain ⟨xs, hxs, offSum⟩ := exists_of_sumSquares (by decide) (by simp [isUnpacked_of32])
    (show 3 * _ ≤ 2 ^ 23 by rw [List.length_map]; omega) sum
  replace hxs := List.forall₂_map_left_iff.mp hxs
  have nonneg := sumOfSquares_nonneg xs
  have few : (xs.length : ℝ) ≤ 4 := mod_cast hxs.length_eq ▸ terms
  -- The error is one of the exact sum; what is known to be large is the computed one.
  have off : |q - sumOfSquares xs| ≤ 12 * (1 / 2 ^ 23) * (sumOfSquares xs + |q|) := by
    have tiny := least_le_of_normal large
    calc |q - sumOfSquares xs|
        ≤ 3 * xs.length * lastPlace .binary32 (sumOfSquares xs) := offSum
      _ ≤ 3 * 4 * (1 / 2 ^ 23 * sumOfSquares xs + 1 / 2 ^ 23 * |q|) := by
          rw [lastPlace_single, abs_of_nonneg nonneg]
          gcongr
      _ = _ := by ring
  have nonzero : 0 < |q| := lt_of_lt_of_le (by positivity) large
  -- A sum that is off by so little is not much smaller than what was computed, and so not zero.
  have near : |q| ≤ 2 * sumOfSquares xs := by
    have := abs_sub_abs_le_abs_sub q (sumOfSquares xs)
    rw [abs_of_nonneg nonneg] at this
    linarith
  refine ⟨xs, q, hxs, hq, lt_of_le_of_lt off ?_⟩
  linarith

/-- What is near a sum of squares, by a part of it, is positive. -/
theorem pos_of_near {q S : ℝ} (hS : 0 ≤ S) (near : |q - S| < S / 65536) : 0 < q := by
  have := (abs_lt.mp near).1
  linarith

/-- The number that normalizing multiplies by is the reciprocal of the length, but for what the
squared length is off and a few units in the last place. -/
theorem exists_factor {value : type.Value} (accurate : type.IsAccurate value) :
    ((type.squaredLength value).sqrt == 0) = false ∧
    ∃ (xs : List ℝ) (f : ℝ),
      List.Forall₂ (fun word x => StandsFor .binary32 (of32 (type.single word)) x)
        (type.normalPart value) xs ∧
      StandsFor .binary32 (of32 (type.factor value)) f ∧
      |f * f * sumOfSquares xs - 1| ≤ 140 * (1 / 2 ^ 23) := by
  obtain ⟨xs, q, hxs, hq, near⟩ := accurate
  have pos := pos_of_near (sumOfSquares_nonneg xs) near
  obtain ⟨nonzero, f, hf, reciprocal⟩ := exists_reciprocal hq pos
  refine ⟨nonzero, xs, f, hxs, hf, abs_scaled_sub_one_le (by norm_num) (by norm_num) reciprocal ?_⟩
  rw [Real.mul_self_sqrt pos.le]
  exact near.le.trans (by linarith)

/-- The components after normalizing, but for a unit in the last place. -/
theorem exists_quotients (h : type.component = .f32) {value : type.Value} {f : ℝ}
    (hf : StandsFor .binary32 (of32 (type.factor value)) f) {words : List type.component.Word}
    {xs : List ℝ}
    (hxs : List.Forall₂ (fun word x => StandsFor .binary32 (of32 (type.single word)) x) words xs)
    (small : ∀ x ∈ xs, |x * f| ≤ 2) :
    ∃ ys, List.Forall₂ (fun word y => StandsFor .binary64 (of64 (type.component.toFloat word)) y)
        (words.map (type.divided value)) ys ∧
      List.Forall₂ (fun x y => |y - x * f| ≤ 1 / 2 ^ 23 * |x * f| + 2 ^ (-149 : ℤ)) xs ys := by
  have range := lt_two_pow_bias_single
  induction hxs with
  | nil => exact ⟨[], .nil, .nil⟩
  | @cons word x words xs hx hxs ih =>
    obtain ⟨first, rest⟩ := List.forall_mem_cons.mp small
    obtain ⟨ys, hys, off⟩ := ih rest
    obtain ⟨y, hy, off'⟩ := (near_mul (by decide) hx hf).of_lt (by linarith)
    rw [lastPlace_single] at off'
    refine ⟨y :: ys, .cons (standsFor_toFloat h ?_) hys, .cons off' off⟩
    rwa [unpack_divided h]

/-- **Normalizing gives unit length**, if the squared length is computed with enough accuracy. -/
theorem isNormalized_normalized (h : type.normalizable = true) {value : type.Value}
    (accurate : type.IsAccurate value) : type.isNormalized (type.normalized value) = true := by
  have few := normalCount_of_normalizable h
  obtain ⟨nonzero, xs, f, hxs, hf, near⟩ := exists_factor accurate
  obtain ⟨low, high⟩ := abs_le.mp near
  have count : xs.length ≤ 4 := by
    rw [← hxs.length_eq, normalPart, List.length_take]
    omega
  -- No component is longer than the vector, so none of the products is out of range.
  have small : ∀ x ∈ xs, |x * f| ≤ 2 := by
    intro x mem
    have square : (x * f) * (x * f) ≤ 2 * 2 := by
      calc (x * f) * (x * f) = f * f * (x * x) := by ring
        _ ≤ f * f * sumOfSquares xs :=
          mul_le_mul_of_nonneg_left (mul_self_le_sumOfSquares mem) (mul_self_nonneg f)
        _ ≤ 2 * 2 := by linarith
    exact (abs_le_iff_mul_self_le.mpr square).trans_eq abs_two
  obtain ⟨ys, hys, off⟩ := exists_quotients (component_of_normalizable h) hf hxs small
  have sum := abs_sumOfSquares_sub_le (by norm_num) (by positivity) (by norm_num) off
  refine isNormalized_of_sum (normalPart_normalized nonzero ▸ hys) (off.length_eq ▸ count) ?_
  have count' : (xs.length : ℝ) ≤ 4 := mod_cast count
  calc |sumOfSquares ys - 1|
      = |(sumOfSquares ys - f * f * sumOfSquares xs) + (f * f * sumOfSquares xs - 1)| := by ring_nf
    _ ≤ _ := abs_add_le ..
    _ ≤ 4 * (1 / 2 ^ 23) * 1.1 + 3 * 2 ^ (-149 : ℤ) * 4 + 140 * (1 / 2 ^ 23) := by
        refine add_le_add (sum.trans ?_) near
        gcongr
        linarith
    _ ≤ 145 / 2 ^ 23 := by norm_num

end MathType

end TagSchema
