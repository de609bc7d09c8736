import TagSchema.Proofs.LayoutCodec
import TagSchema.Proofs.Outcome
import TagSchema.Proofs.Tag.Register
import TagSchema.Tag.FileHeader

/-!
# Damage in one place

Up to four bytes are added to the register as one word, which the steps then carry along without
loss. So bytes that differ within a window of four leave the register in different states, nothing
that follows brings the states together again, and a tag file is not accepted any more once its body
is damaged in such a window.
-/

namespace TagSchema

namespace Checksum

theorem toNatLittle_lt_size {bytes : Bytes} (h : bytes.length ≤ 4) :
    bytes.toNatLittle < UInt32.size := by
  refine Nat.lt_of_lt_of_le bytes.toNatLittle_lt ?_
  rw [Nat.shiftLeft_eq, Nat.one_mul]
  exact Nat.pow_le_pow_right Nat.two_pos (Nat.mul_le_mul_left 8 h)

/-- Four bytes or fewer go through the register as one word. -/
theorem foldl_feed (crc : UInt32) {bytes : Bytes} (h : bytes.length ≤ 4) :
    bytes.foldl feed crc =
      shiftBit^[8 * bytes.length] (crc ^^^ UInt32.ofNat bytes.toNatLittle) := by
  induction bytes generalizing crc with
  | nil => exact (UInt32.xor_zero).symm
  | cons b rest ih =>
    have shorter : rest.length ≤ 4 := Nat.le_of_succ_le h
    have digits : Bytes.toNatLittle (b :: rest) = b.toNat + (Bytes.toNatLittle rest) <<< 8 := by
      rw [Nat.shiftLeft_eq, Nat.mul_comm]
      rfl
    have fits : Bytes.toNatLittle (b :: rest) < UInt32.size := toNatLittle_lt_size h
    have first := iterate_shiftBit_low_add_high crc (n := 8) b.toNat_lt (digits ▸ fits)
    rw [← digits, UInt32.ofNat_uInt8ToNat, ← feed_eq] at first
    rw [List.foldl_cons, ih _ shorter, ← first, ← Function.iterate_add_apply, List.length_cons,
      Nat.mul_succ]

/-- From one state of the register, different words lead to different states. -/
theorem foldl_feed_inj (crc : UInt32) {x y : Bytes} (length : x.length = y.length)
    (h : x.length ≤ 4) (same : x.foldl feed crc = y.foldl feed crc) : x = y := by
  rw [foldl_feed crc h, foldl_feed crc (length ▸ h), length] at same
  have words := (UInt32.xor_right_inj crc).mp (shiftBit_injective.iterate _ same)
  have numbers := ofNat_inj (toNatLittle_lt_size h) (toNatLittle_lt_size (length ▸ h)) words
  rw [← Bytes.ofNatLittle_toNatLittle x, numbers, length, Bytes.ofNatLittle_toNatLittle]

/-- Different states of the register stay different, whatever follows. -/
theorem foldl_feed_injective (bytes : Bytes) :
    Function.Injective fun crc => bytes.foldl feed crc := by
  induction bytes with
  | nil => exact Function.injective_id
  | cons b rest ih => exact ih.comp (feed_injective b)

/-- Two byte strings of the same length that differ, but nowhere outside of a window of four
bytes. -/
structure Burst (a b : Bytes) : Prop where
  length : a.length = b.length
  ne : a ≠ b
  window : ∃ start, ∀ i, a[i]? ≠ b[i]? → start ≤ i ∧ i < start + 4

theorem Burst.split {a b : Bytes} (burst : Burst a b) : ∃ front x y back,
    a = front ++ (x ++ back) ∧ b = front ++ (y ++ back) ∧ x.length = y.length ∧ x.length ≤ 4 ∧
      x ≠ y := by
  obtain ⟨start, window⟩ := burst.window
  -- Outside of the window all bytes are the same, also where both strings have ended.
  have same (i : Nat) (outside : ¬(start ≤ i ∧ i < start + 4)) : a[i]? = b[i]? :=
    Decidable.not_not.mp (outside ∘ window i)
  have front : a.take start = b.take start := List.ext_getElem? fun i => by
    rw [List.getElem?_take, List.getElem?_take]
    split
    · exact same i (by omega)
    · rfl
  have back : (a.drop start).drop 4 = (b.drop start).drop 4 := List.ext_getElem? fun i => by
    rw [List.getElem?_drop, List.getElem?_drop, List.getElem?_drop, List.getElem?_drop]
    exact same _ (by omega)
  have parts (data : Bytes) :
      data = data.take start ++ ((data.drop start).take 4 ++ (data.drop start).drop 4) := by
    rw [List.take_append_drop, List.take_append_drop]
  refine ⟨a.take start, (a.drop start).take 4, (b.drop start).take 4, (a.drop start).drop 4,
    parts a, ?_, ?_, List.length_take_le _ _, fun h => burst.ne ?_⟩
  · rw [front, back, ← parts b]
  · rw [List.length_take, List.length_take, List.length_drop, List.length_drop, burst.length]
  · rw [parts a, parts b, front, back, h]

theorem Burst.of_split (front back : Bytes) {x y : Bytes} (length : x.length = y.length)
    (short : x.length ≤ 4) (ne : x ≠ y) : Burst (front ++ (x ++ back)) (front ++ (y ++ back)) where
  length := by
    simp only [List.length_append, length]
  ne same := ne (List.append_cancel_right (List.append_cancel_left same))
  window := by
    refine ⟨front.length, fun i differs => ?_⟩
    have above : front.length ≤ i := Nat.not_lt.mp fun below => differs <| by
      rw [List.getElem?_append_left below, List.getElem?_append_left below]
    refine ⟨above, Nat.not_le.mp fun beyond => differs ?_⟩
    rw [List.getElem?_append_right above, List.getElem?_append_right above,
      List.getElem?_append_right (by omega), List.getElem?_append_right (by omega), length]

/-- The checksum tells a byte string from one that differs in a single window of four bytes. -/
theorem crc32_ne_of_burst {a b : Bytes} (burst : Burst a b) : crc32 a ≠ crc32 b := by
  obtain ⟨front, x, y, back, rfl, rfl, length, short, ne⟩ := burst.split
  intro same
  rw [crc32, crc32, UInt32.not_inj, List.foldl_append, List.foldl_append, List.foldl_append,
    List.foldl_append] at same
  exact ne (foldl_feed_inj _ length short (foldl_feed_injective back same))

end Checksum

/-! ### Damaged files -/

namespace FileHeader

/-- What is wrong with a header, whatever checksum it stores. -/
def headerDefect? (header : Bytes) (expected : Option TagClass) : Option Defect :=
  let (_, _, code, _, headerSize, _, _, _, found) := layout.decode header
  let tagClass : TagClass := ⟨UInt32.ofBitVec code⟩
  if UInt32.ofBitVec found ≠ mark then some .noMark
  else if headerSize.toNat ≠ size then some (.headerSize headerSize.toNat size)
  else (expected.filter (tagClass ≠ ·)).map (.wrongClass tagClass)

/-- The checksum that a header stores. -/
def storedChecksum (header : Bytes) : UInt32 :=
  let (_, _, _, checksum, _) := layout.decode header
  UInt32.ofBitVec checksum

/-- A file is validated by its header first, and then by the checksum of its body. -/
theorem validate_append {header : Bytes} (h : header.length = size) (body : Bytes)
    (expected : Option TagClass) :
    validate (header ++ body) expected =
      match headerDefect? header expected with
      | some defect => .error (.invalidData defect)
      | none =>
        if storedChecksum header = Checksum.crc32 body then .ok body
        else .error (.invalidData (.checksum (storedChecksum header) (Checksum.crc32 body))) := by
  have long : ¬(header ++ body).length < size := by
    rw [List.length_append]
    omega
  unfold validate headerDefect? storedChecksum
  rw [if_neg long, layout.decode_append (Nat.le_of_eq h.symm) body, List.drop_left' h]
  -- The same checks in the same order, with the checksum last.
  obtain ⟨_, _, code, checksum, headerSize, _, _, _, found⟩ := layout.decode header
  dsimp only
  by_cases marked : UInt32.ofBitVec found ≠ mark
  · rw [if_pos marked, if_pos marked]
    rfl
  rw [if_neg marked, if_neg marked]
  by_cases sized : headerSize.toNat ≠ size
  · rw [if_pos sized, if_pos sized]
    rfl
  rw [if_neg sized, if_neg sized]
  have checked : (if UInt32.ofBitVec checksum ≠ Checksum.crc32 body then
        .error (.invalidData (.checksum (UInt32.ofBitVec checksum) (Checksum.crc32 body)))
      else .ok body : Except TagError Bytes) =
      if UInt32.ofBitVec checksum = Checksum.crc32 body then .ok body
      else .error (.invalidData (.checksum (UInt32.ofBitVec checksum) (Checksum.crc32 body))) :=
    ite_not ..
  cases expected with
  | none => exact checked
  | some expected =>
    dsimp only
    by_cases same : (⟨UInt32.ofBitVec code⟩ : TagClass) = expected
    · have allowed : (some expected).filter ((⟨UInt32.ofBitVec code⟩ : TagClass) ≠ ·) = none :=
        Option.filter_some_neg (by simpa using same)
      rw [allowed, if_neg (not_not_intro same)]
      exact checked
    · have wrong : (some expected).filter ((⟨UInt32.ofBitVec code⟩ : TagClass) ≠ ·) =
          some expected :=
        Option.filter_some_pos (by simpa using same)
      rw [wrong, if_pos same]
      rfl

/-- A file that is accepted has a header without defects, which stores the checksum of the body. -/
theorem validate_eq_ok {file body : Bytes} {expected : Option TagClass}
    (h : validate file expected = .ok body) :
    (file.take size).length = size ∧ headerDefect? (file.take size) expected = none ∧
      file.drop size = body ∧ storedChecksum (file.take size) = Checksum.crc32 body := by
  have long : ¬file.length < size := fun short => by
    rw [validate, if_pos short] at h
    cases h
  have whole : (file.take size).length = size := by
    rw [List.length_take, Nat.min_eq_left (Nat.not_lt.mp long)]
  rw [← List.take_append_drop size file, validate_append whole] at h
  split at h
  · cases h
  · split at h
    · cases h
      exact ⟨whole, ‹_›, rfl, ‹_›⟩
    · cases h

end FileHeader

/-- The checksum tells byte strings apart that differ within a window of four bytes. So when the
body of a file that is accepted is damaged in such a window, the file is found to be invalid,
whatever class is expected, and if it is the class that was expected before, the checksum is what
gives the damage away. -/
theorem crc32_detects_bursts :
    (∀ a b : Bytes, Checksum.Burst a b → Checksum.crc32 a ≠ Checksum.crc32 b) ∧
    ∀ (file body damaged : Bytes) (expected : Option TagClass),
      FileHeader.validate file expected = .ok body → Checksum.Burst body damaged →
      FileHeader.validate (file.take FileHeader.size ++ damaged) expected =
        .error (.invalidData (.checksum (Checksum.crc32 body) (Checksum.crc32 damaged))) ∧
      ∀ expected', ∃ defect,
        FileHeader.validate (file.take FileHeader.size ++ damaged) expected' =
          .error (.invalidData defect) := by
  refine ⟨fun a b => Checksum.crc32_ne_of_burst,
    fun file body damaged expected accepted burst => ?_⟩
  obtain ⟨whole, fine, rfl, stored⟩ := FileHeader.validate_eq_ok accepted
  have differs := Checksum.crc32_ne_of_burst burst
  constructor
  · rw [FileHeader.validate_append whole, fine, stored]
    exact if_neg differs
  · intro expected'
    rw [FileHeader.validate_append whole, stored]
    cases FileHeader.headerDefect? (file.take FileHeader.size) expected' with
    | some defect => exact ⟨defect, rfl⟩
    | none => exact ⟨_, if_neg differs⟩

/-- Four bytes of a body in another order. -/
theorem crc32_detects_bursts_shuffled :
    let weapon : TagClass := ⟨0x77656170⟩
    let body : Bytes := [255, 0, 1, 2, 3, 4, 0, 255]
    let damaged : Bytes := [255, 0, 4, 3, 2, 1, 0, 255]
    let file := FileHeader.wrap weapon body
    Checksum.Burst body damaged ∧ Checksum.crc32 body ≠ Checksum.crc32 damaged ∧
      FileHeader.validate file (some weapon) = .ok body ∧
      FileHeader.validate (file.take FileHeader.size ++ damaged) (some weapon) =
        .error (.invalidData (.checksum (Checksum.crc32 body) (Checksum.crc32 damaged))) ∧
      ∃ defect, FileHeader.validate (file.take FileHeader.size ++ damaged) none =
        .error (.invalidData defect) := by
  intro weapon body damaged file
  have burst : Checksum.Burst body damaged :=
    .of_split [255, 0] [0, 255] (x := [1, 2, 3, 4]) (y := [4, 3, 2, 1]) rfl (by decide) (by decide)
  have accepted : FileHeader.validate file (some weapon) = .ok body :=
    Except.eq_ok_of_toOption (by decide +kernel)
  obtain ⟨detected, invalid⟩ :=
    crc32_detects_bursts.2 file body damaged (some weapon) accepted burst
  exact ⟨burst, crc32_detects_bursts.1 body damaged burst, accepted, detected, invalid none⟩

end TagSchema
