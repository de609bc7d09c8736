/-!
# Byte strings

Tag data is a list of bytes. A reader takes a window of it, a writer overwrites a window of it, and
the laws below say which bytes a window holds afterwards.
-/

namespace TagSchema

/-- Tag data, in memory order. -/
abbrev Bytes := List UInt8

namespace Bytes

/-- `n` zero bytes. -/
def zeros (n : Nat) : Bytes := List.replicate n 0

/-- The `size` bytes from `offset` on, if the data is that long. -/
def slice? (data : Bytes) (offset size : Nat) : Option Bytes :=
  if offset + size ≤ data.length then some ((data.drop offset).take size) else none

/-- `data` with the bytes from `offset` on replaced by `patch`. -/
def overwrite (data : Bytes) (offset : Nat) (patch : Bytes) : Bytes :=
  data.take offset ++ patch ++ data.drop (offset + patch.length)

/-- The number whose digits to base 256 are the bytes, the least significant first. -/
def toNatLittle : Bytes → Nat
  | [] => 0
  | b :: rest => b.toNat + 256 * toNatLittle rest

/-- The `n` lowest digits of a number to base 256, the least significant first. -/
def ofNatLittle : Nat → Nat → Bytes
  | 0, _ => []
  | n + 1, value => UInt8.ofNat (value % 256) :: ofNatLittle n (value / 256)

/-! ### Windows -/

@[simp] theorem length_zeros (n : Nat) : (zeros n).length = n := by simp [zeros]

theorem length_of_slice? {data window : Bytes} {offset size : Nat}
    (h : data.slice? offset size = some window) : window.length = size := by
  unfold slice? at h
  split at h
  · obtain rfl := Option.some.inj h
    simp; omega
  · cases h

theorem length_overwrite (data patch : Bytes) (offset : Nat)
    (h : offset + patch.length ≤ data.length) :
    (data.overwrite offset patch).length = data.length := by
  simp [overwrite]; omega

/-- What was written is what is read back. -/
theorem slice?_overwrite (data patch : Bytes) (offset : Nat)
    (h : offset + patch.length ≤ data.length) :
    (data.overwrite offset patch).slice? offset patch.length = some patch := by
  have hlen : (data.take offset).length = offset := by simp; omega
  unfold slice?
  rw [if_pos (by rw [length_overwrite data patch offset h]; exact h)]
  unfold overwrite
  rw [List.append_assoc, List.drop_left' hlen, List.take_left]

/-! ### Numbers to base 256 -/

@[simp] theorem length_ofNatLittle (n value : Nat) : (ofNatLittle n value).length = n := by
  induction n generalizing value with
  | zero => rfl
  | succ n ih => simp [ofNatLittle, ih]

theorem one_shiftLeft_succ (n : Nat) : 1 <<< (8 * (n + 1)) = 256 * 1 <<< (8 * n) := by
  rw [Nat.mul_succ, Nat.shiftLeft_add, Nat.shiftLeft_eq _ 8]; omega

/-- A number of `n` digits has at most `8 * n` bits. -/
theorem toNatLittle_lt (bytes : Bytes) : toNatLittle bytes < 1 <<< (8 * bytes.length) := by
  induction bytes with
  | nil => decide
  | cons b rest ih =>
    have hb := b.toNat_lt
    simp only [toNatLittle, List.length_cons, one_shiftLeft_succ]
    omega

theorem toNatLittle_ofNatLittle (n value : Nat) (h : value < 1 <<< (8 * n)) :
    toNatLittle (ofNatLittle n value) = value := by
  induction n generalizing value with
  | zero => simp at h; simp [ofNatLittle, toNatLittle, h]
  | succ n ih =>
    have hdiv : value / 256 < 1 <<< (8 * n) := by rw [one_shiftLeft_succ] at h; omega
    simp only [ofNatLittle, toNatLittle, ih _ hdiv, UInt8.toNat_ofNat']
    omega

theorem ofNatLittle_toNatLittle (bytes : Bytes) :
    ofNatLittle bytes.length (toNatLittle bytes) = bytes := by
  induction bytes with
  | nil => rfl
  | cons b rest ih =>
    have hb := b.toNat_lt
    have hdiv : (b.toNat + 256 * toNatLittle rest) / 256 = toNatLittle rest := by omega
    have hmod : (b.toNat + 256 * toNatLittle rest) % 256 = b.toNat := by omega
    simp [ofNatLittle, toNatLittle, hdiv, hmod, ih]

end Bytes

end TagSchema
