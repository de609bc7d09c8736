import Mathlib.Data.Nat.Bitwise
import Mathlib.Logic.Function.Iterate
import TagSchema.Tag.Checksum

/-!
# The register of the checksum

A step of the register is linear over exclusive or and loses nothing, and bits that have not reached
the low end only move down. So a whole byte, which the table handles at once, is eight steps, and
the checksum is the one that sends the bits through the register one after another.
-/

namespace TagSchema.Checksum

/-! ### Numbers as words -/

/-- The low bits of a number and the rest of it. -/
theorem ofNat_low_add_high {low n : Nat} (h : low < 1 <<< n) (high : Nat) :
    UInt32.ofNat (low + high <<< n) = UInt32.ofNat low ^^^ UInt32.ofNat (high <<< n) := by
  rw [Nat.shiftLeft_eq, Nat.one_mul] at h
  have apart : low + high <<< n = low ^^^ high <<< n := by
    refine Nat.eq_of_testBit_eq fun i => ?_
    rw [Nat.add_comm, Nat.shiftLeft_eq, Nat.mul_comm, Nat.testBit_two_pow_mul_add high h,
      Nat.testBit_xor, Nat.testBit_two_pow_mul]
    by_cases below : i < n
    · simp [below, Nat.not_le.mpr below]
    · simp [below, Nat.not_lt.mp below, Nat.testBit_lt_two_pow
        (Nat.lt_of_lt_of_le h (Nat.pow_le_pow_right Nat.two_pos (Nat.not_lt.mp below)))]
  rw [apart, UInt32.ofNat_xor]

theorem ofNat_inj {m n : Nat} (hm : m < UInt32.size) (hn : n < UInt32.size)
    (h : UInt32.ofNat m = UInt32.ofNat n) : m = n := by
  rw [← UInt32.toNat_ofNat_of_lt' hm, h, UInt32.toNat_ofNat_of_lt' hn]

/-! ### One step -/

/-- The lowest bit decides whether the polynomial is taken off. -/
theorem shiftBit_eq (crc : UInt32) :
    shiftBit crc = (crc >>> 1) ^^^ (if crc.toNat % 2 = 1 then polynomial else 0) := by
  have lowest : crc &&& 1 = 1 ↔ crc.toNat % 2 = 1 := by
    rw [← UInt32.toNat_inj, UInt32.toNat_and]
    exact Nat.and_one_is_mod crc.toNat ▸ Iff.rfl
  unfold shiftBit
  by_cases odd : crc.toNat % 2 = 1
  · rw [if_pos (lowest.mpr odd), if_pos odd]
  · rw [if_neg (odd ∘ lowest.mp), if_neg odd, UInt32.xor_zero]

/-- A step is linear. -/
theorem shiftBit_xor (x y : UInt32) : shiftBit (x ^^^ y) = shiftBit x ^^^ shiftBit y := by
  have lowest : (x ^^^ y).toNat % 2 = (x.toNat + y.toNat) % 2 := by
    rw [UInt32.toNat_xor, Nat.xor_mod_two_eq]
  have swap (a b p q : UInt32) : a ^^^ p ^^^ (b ^^^ q) = a ^^^ b ^^^ (p ^^^ q) := by
    rw [UInt32.xor_assoc, UInt32.xor_assoc, ← UInt32.xor_assoc p, UInt32.xor_comm p,
      UInt32.xor_assoc b]
  rw [shiftBit_eq, shiftBit_eq, shiftBit_eq, swap, UInt32.shiftRight_xor, lowest]
  congr 1
  obtain hx | hx := Nat.mod_two_eq_zero_or_one x.toNat <;>
    obtain hy | hy := Nat.mod_two_eq_zero_or_one y.toNat <;>
    simp [hx, hy, Nat.add_mod]

/-- What has not reached the low end moves down. -/
theorem shiftBit_ofNat_two_mul {n : Nat} (h : 2 * n < UInt32.size) :
    shiftBit (UInt32.ofNat (2 * n)) = UInt32.ofNat n := by
  have double := UInt32.toNat_ofNat_of_lt' h
  have single : (UInt32.ofNat n).toNat = n := UInt32.toNat_ofNat_of_lt' (by omega)
  rw [shiftBit_eq, if_neg (by omega), UInt32.xor_zero, ← UInt32.toNat_inj, UInt32.toNat_shiftRight,
    double, single]
  exact Nat.mul_div_cancel_left n Nat.two_pos

/-- Nothing is lost: what leaves at the low end shows in the highest bit, which the polynomial has
and which no register has that was only moved down. -/
theorem shiftBit_injective : Function.Injective shiftBit := by
  have kernel (z : UInt32) (h : shiftBit z = 0) : z = 0 := by
    have half : (z >>> 1).toNat = z.toNat / 2 := by
      rw [UInt32.toNat_shiftRight]
      exact Nat.shiftRight_one z.toNat
    have bound := z.toNat_lt
    rw [shiftBit_eq, UInt32.xor_eq_zero_iff, ← UInt32.toNat_inj, half] at h
    split at h
    · -- The polynomial has its top bit set, which a shifted register has not.
      have top : polynomial.toNat = 3988292384 := rfl
      omega
    · refine UInt32.toNat_inj.mp ?_
      change z.toNat / 2 = 0 at h
      change z.toNat = 0
      omega
  intro x y h
  refine UInt32.xor_eq_zero_iff.mp (kernel (x ^^^ y) ?_)
  rw [shiftBit_xor, h, UInt32.xor_self]

/-! ### Several steps -/

theorem shiftByte_eq (crc : UInt32) : shiftByte crc = shiftBit^[8] crc := rfl

theorem iterate_shiftBit_xor (n : Nat) (x y : UInt32) :
    shiftBit^[n] (x ^^^ y) = shiftBit^[n] x ^^^ shiftBit^[n] y := by
  induction n generalizing x y with
  | zero => rfl
  | succ n ih => rw [Function.iterate_succ_apply, shiftBit_xor, ih]; rfl

theorem iterate_shiftBit_shiftLeft (n : Nat) {high : Nat} (h : high <<< n < UInt32.size) :
    shiftBit^[n] (UInt32.ofNat (high <<< n)) = UInt32.ofNat high := by
  induction n with
  | zero => rfl
  | succ n ih =>
    rw [Nat.shiftLeft_succ] at h
    rw [Function.iterate_succ_apply, Nat.shiftLeft_succ, shiftBit_ofNat_two_mul h]
    exact ih (by omega)

/-- In `n` steps, the lowest `n` bits go through the register and the rest moves down. -/
theorem iterate_shiftBit_low_add_high (crc : UInt32) {low n : Nat} (h : low < 1 <<< n) {high : Nat}
    (fits : low + high <<< n < UInt32.size) :
    shiftBit^[n] (crc ^^^ UInt32.ofNat (low + high <<< n)) =
      shiftBit^[n] (crc ^^^ UInt32.ofNat low) ^^^ UInt32.ofNat high := by
  have room : high <<< n < UInt32.size := Nat.lt_of_le_of_lt (Nat.le_add_left _ _) fits
  rw [ofNat_low_add_high h, ← UInt32.xor_assoc, iterate_shiftBit_xor,
    iterate_shiftBit_shiftLeft n room]

/-! ### Bytes -/

theorem getElem?_table {i : Nat} (h : i < 256) :
    table[i]? = some (shiftByte (UInt32.ofNat i)) := by
  rw [table, Array.getElem?_ofFn, dif_pos h]

/-- In eight steps the lowest byte goes through the register, and the other three move down. -/
theorem iterate_shiftBit_eight (crc : UInt32) :
    shiftBit^[8] crc = shiftByte (UInt32.ofNat (crc.toNat % 256)) ^^^ (crc >>> 8) := by
  have bound := crc.toNat_lt
  have parts : crc.toNat = crc.toNat % 256 + (crc.toNat / 256) <<< 8 := by
    rw [Nat.shiftLeft_eq]
    omega
  have others : crc >>> 8 = UInt32.ofNat (crc.toNat / 256) := by
    have small : crc.toNat / 256 < UInt32.size := Nat.lt_of_le_of_lt (Nat.div_le_self _ _) bound
    rw [← UInt32.toNat_inj, UInt32.toNat_shiftRight, UInt32.toNat_ofNat_of_lt' small]
    exact Nat.shiftRight_eq_div_pow _ 8
  have lowest : crc.toNat % 256 < 1 <<< 8 := Nat.mod_lt _ (by decide)
  have split := iterate_shiftBit_low_add_high 0 lowest (parts ▸ bound)
  rw [← parts, UInt32.zero_xor, UInt32.zero_xor, UInt32.ofNat_toNat] at split
  rw [split, others, shiftByte_eq]

/-- One look-up in the table is eight steps. -/
theorem feed_eq (crc : UInt32) (b : UInt8) : feed crc b = shiftBit^[8] (crc ^^^ b.toUInt32) := by
  have byte : b.toUInt32 >>> 8 = 0 := by
    refine UInt32.toNat_inj.mp ?_
    rw [UInt32.toNat_shiftRight, UInt8.toNat_toUInt32]
    exact (Nat.shiftRight_eq_div_pow b.toNat 8).trans (Nat.div_eq_of_lt b.toNat_lt)
  have others : crc >>> 8 = (crc ^^^ b.toUInt32) >>> 8 := by
    rw [UInt32.shiftRight_xor, byte, UInt32.xor_zero]
  have lowest : ((crc ^^^ b.toUInt32) &&& 0xFF).toNat = (crc ^^^ b.toUInt32).toNat % 256 := by
    rw [UInt32.toNat_and]
    exact Nat.and_two_pow_sub_one_eq_mod _ 8
  rw [feed, lowest, getElem?_table (Nat.mod_lt _ (by decide)), Option.getD_some, others,
    iterate_shiftBit_eight]

theorem feed_injective (b : UInt8) : Function.Injective fun crc => feed crc b := by
  intro x y h
  dsimp only at h
  rw [feed_eq, feed_eq] at h
  exact (UInt32.xor_left_inj _).mp (shiftBit_injective.iterate 8 h)

/-! ### Bits one after another -/

/-- The register after one more bit: the register moves down by one, and the polynomial is taken off
where the bit differs from the one that leaves. -/
def feedBit (register : UInt32) (bit : Bool) : UInt32 :=
  if register.toNat.testBit 0 = bit then register >>> 1 else (register >>> 1) ^^^ 0xEDB88320

/-- The bits of a byte, the least significant first. -/
def bitsOf (b : UInt8) : List Bool := (List.range 8).map b.toNat.testBit

/-- The checksum of some data whose bits go through the register one after another. -/
def bitwise (data : Bytes) : UInt32 := ~~~((data.flatMap bitsOf).foldl feedBit 0xFFFFFFFF)

theorem feedBit_eq (register : UInt32) (bit : Bool) :
    feedBit register bit = shiftBit (register ^^^ UInt32.ofNat bit.toNat) := by
  have low : shiftBit (UInt32.ofNat bit.toNat) = if bit then polynomial else 0 := by
    cases bit <;> rfl
  have test : register.toNat.testBit 0 = decide (register.toNat % 2 = 1) := Nat.testBit_zero _
  rw [shiftBit_xor, low, shiftBit_eq, feedBit, test]
  -- A bit of one takes the polynomial off where the register does not, and the other way round.
  have twice : register >>> 1 = register >>> 1 ^^^ polynomial ^^^ polynomial := by
    rw [UInt32.xor_assoc, UInt32.xor_self, UInt32.xor_zero]
  cases bit with
  | false => by_cases odd : register.toNat % 2 = 1 <;> simp [odd, polynomial]
  | true =>
    by_cases odd : register.toNat % 2 = 1
    · simpa only [odd, decide_true, if_true] using twice
    · simp [odd, polynomial]

/-- The lowest bits of a number go through the register as they do in as many steps. -/
theorem foldl_feedBit (register : UInt32) (n : Nat) {value : Nat} (h : value < 1 <<< n)
    (fits : value < UInt32.size) :
    ((List.range n).map value.testBit).foldl feedBit register =
      shiftBit^[n] (register ^^^ UInt32.ofNat value) := by
  induction n generalizing register value with
  | zero =>
    obtain rfl : value = 0 := by simpa using h
    exact (UInt32.xor_zero).symm
  | succ n ih =>
    -- The lowest bit goes first, and what is left is the number without it, one place down.
    have parts : value = (value.testBit 0).toNat + (value / 2) <<< 1 := by
      rw [Nat.testBit_zero, Nat.shiftLeft_eq]
      obtain even | odd := Nat.mod_two_eq_zero_or_one value
      · simp [even]; omega
      · simp [odd]; omega
    have first := iterate_shiftBit_low_add_high register (n := 1) (value.testBit 0).toNat_lt
      (parts ▸ fits)
    rw [← parts] at first
    have tail : List.map value.testBit (List.map Nat.succ (List.range n)) =
        (List.range n).map (value / 2).testBit := by
      rw [List.map_map]
      exact List.map_congr_left fun i _ => Nat.testBit_add_one value i
    have rest : value / 2 < 1 <<< n := by
      rw [Nat.shiftLeft_succ] at h
      omega
    rw [List.range_succ_eq_map, List.map_cons, List.foldl_cons, tail, ih _ rest (by omega),
      feedBit_eq, Function.iterate_succ_apply]
    exact congrArg shiftBit^[n] first.symm

theorem feed_eq_foldl (crc : UInt32) (b : UInt8) : feed crc b = (bitsOf b).foldl feedBit crc := by
  rw [feed_eq, bitsOf, foldl_feedBit crc 8 b.toNat_lt (Nat.lt_trans b.toNat_lt (by decide)),
    UInt32.ofNat_uInt8ToNat]

/-- The checksum by table is the one that takes the data bit by bit. -/
theorem crc32_eq_bitwise (data : Bytes) : crc32 data = bitwise data := by
  have whole : data.foldl feed 0xFFFFFFFF = (data.flatMap bitsOf).foldl feedBit 0xFFFFFFFF := by
    rw [List.foldl_flatMap]
    exact congrArg (fun step => data.foldl step 0xFFFFFFFF)
      (funext fun crc => funext fun b => feed_eq_foldl crc b)
  rw [crc32, bitwise, whole]

example : bitwise [49, 50, 51, 52, 53, 54, 55, 56, 57] = 0xCBF43926 := by decide +kernel

end TagSchema.Checksum
