import TagSchema.Bytes

/-!
# Overwriting

What becomes of a run of bytes when a window of it is overwritten: the window may lie in a part of
the run, and windows side by side are one window.
-/

namespace TagSchema.Bytes

theorem overwrite_nil (data : Bytes) (offset : Nat) : data.overwrite offset [] = data := by
  simp [overwrite]

/-- A window in the first part. -/
theorem overwrite_append_left (data tail patch : Bytes) (offset : Nat)
    (h : offset + patch.length ≤ data.length) :
    (data ++ tail).overwrite offset patch = data.overwrite offset patch ++ tail := by
  simp only [overwrite]
  rw [List.take_append_of_le_length (by omega), List.drop_append_of_le_length h, List.append_assoc,
    List.append_assoc, List.append_assoc]

/-- A window in the second part. -/
theorem overwrite_append_right (left data patch : Bytes) (offset : Nat) :
    (left ++ data).overwrite (left.length + offset) patch =
      left ++ data.overwrite offset patch := by
  simp only [overwrite, Nat.add_assoc, List.take_length_add_append, List.drop_length_add_append,
    List.append_assoc]

/-- Two windows side by side. -/
theorem overwrite_overwrite (data first second : Bytes) (offset : Nat) (h : offset ≤ data.length) :
    (data.overwrite offset first).overwrite (offset + first.length) second =
      data.overwrite offset (first ++ second) := by
  have hleft : (data.take offset ++ first).length = offset + first.length := by
    rw [List.length_append, List.length_take, Nat.min_eq_left h]
  have hright := overwrite_append_right (data.take offset ++ first)
    (data.drop (offset + first.length)) second 0
  rw [Nat.add_zero, hleft] at hright
  refine hright.trans ?_
  simp [overwrite, Nat.add_assoc]

/-- A window that is all there is. -/
theorem overwrite_whole (data patch : Bytes) (h : data.length = patch.length) :
    data.overwrite 0 patch = patch := by
  simp [overwrite, ← h]

/-- A window in the middle is replaced and nothing else. -/
theorem overwrite_middle (left window right patch : Bytes) (h : window.length = patch.length) :
    (left ++ (window ++ right)).overwrite left.length patch = left ++ (patch ++ right) := by
  have hright := overwrite_append_right left (window ++ right) patch 0
  rw [Nat.add_zero] at hright
  rw [hright, overwrite_append_left _ _ _ _ (by omega), overwrite_whole window patch h]

/-- A reserved slot at the end, filled. -/
theorem append_zeros_overwrite (data patch : Bytes) :
    (data ++ zeros patch.length).overwrite data.length patch = data ++ patch := by
  simp [overwrite]

/-! ### Byte by byte -/

/-- A byte comes from the patch if it is in the window, and else is as before. -/
theorem getElem?_overwrite (data patch : Bytes) {offset : Nat}
    (h : offset + patch.length ≤ data.length) (i : Nat) :
    (data.overwrite offset patch)[i]? =
      if offset ≤ i ∧ i < offset + patch.length then patch[i - offset]? else data[i]? := by
  have front : (data.take offset).length = offset := by
    rw [List.length_take]
    omega
  rw [overwrite, List.append_assoc]
  by_cases before : i < offset
  · rw [List.getElem?_append_left (by omega), List.getElem?_take_of_lt before, if_neg (by omega)]
  rw [List.getElem?_append_right (by omega), front]
  by_cases inside : i < offset + patch.length
  · rw [List.getElem?_append_left (by omega), if_pos (by omega)]
  · rw [List.getElem?_append_right (by omega), List.getElem?_drop, if_neg (by omega)]
    congr 1
    omega

theorem getElem?_overwrite_of_apart (data patch : Bytes) {offset i : Nat}
    (h : offset + patch.length ≤ data.length) (apart : i < offset ∨ offset + patch.length ≤ i) :
    (data.overwrite offset patch)[i]? = data[i]? := by
  rw [getElem?_overwrite data patch h, if_neg (by omega)]

/-- A window that lies in the data, byte by byte. -/
theorem slice?_eq_some_iff {data window : Bytes} {offset size : Nat} :
    data.slice? offset size = some window ↔
      offset + size ≤ data.length ∧ window.length = size ∧
        ∀ i < size, data[offset + i]? = window[i]? := by
  constructor
  · intro h
    have length := length_of_slice? h
    unfold slice? at h
    split at h
    · obtain rfl := Option.some.inj h
      refine ⟨‹_›, length, fun i below => ?_⟩
      rw [List.getElem?_take_of_lt below, List.getElem?_drop]
    · cases h
  · rintro ⟨inside, length, same⟩
    rw [slice?, if_pos inside]
    refine congrArg some (List.ext_getElem? fun i => ?_)
    -- Beyond the size neither side has a byte.
    by_cases below : i < size
    · rw [List.getElem?_take_of_lt below, List.getElem?_drop, same i below]
    · rw [List.getElem?_take_eq_none (Nat.not_lt.mp below),
        List.getElem?_eq_none (length ▸ Nat.not_lt.mp below)]

/-- A window stays as it is when its bytes do. -/
theorem slice?_congr {data data' : Bytes} {offset size : Nat} (length : data'.length = data.length)
    (same : ∀ i, offset ≤ i → i < offset + size → data'[i]? = data[i]?) :
    data'.slice? offset size = data.slice? offset size := by
  refine Option.ext fun window => ?_
  rw [slice?_eq_some_iff, slice?_eq_some_iff, length]
  refine and_congr_right fun _ => and_congr_right fun _ => forall₂_congr fun i below => ?_
  rw [same (offset + i) (Nat.le_add_right _ _) (Nat.add_lt_add_left below _)]

end TagSchema.Bytes
