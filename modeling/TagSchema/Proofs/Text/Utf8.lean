import Mathlib.Data.List.Basic
import Mathlib.Tactic.IntervalCases
import TagSchema.Text.Utf8

/-!
# UTF-8 is read back, and nothing else is read

The decoder, fed the UTF-8 form of a character, ends at a boundary again and has produced exactly
that character. By induction the text of the UTF-8 form of a text is the text. Conversely, a state
inside a character fits to the bytes that were read of it: whichever bytes are accepted next, they
complete the UTF-8 form of the character that comes out. So bytes that are read as a text are its
UTF-8 form.
-/

namespace TagSchema.Text

namespace Utf8State

/-! ### Single bytes -/

/-- A byte at a boundary begins a character, or is no beginning. -/
theorem run_boundary_cons (b : UInt8) (rest : Bytes) :
    run .boundary (b :: rest) = (start b).1 ++ run (start b).2 rest := rfl

/-- A byte in range that is not the last one of its character. -/
theorem run_inside_more (missing : Nat) {value : Nat} {low high b : UInt8} (rest : Bytes)
    (hmissing : 1 < missing) (hlow : low ≤ b) (hhigh : b ≤ high) :
    run (.inside missing low high value) (b :: rest) =
      run (.inside (missing - 1) 0x80 0xBF (value * 64 + (b.toNat - 0x80))) rest := by
  simp only [run, step]
  rw [if_pos ⟨hlow, hhigh⟩, if_neg (by omega)]
  rfl

/-- A byte in range that ends its character. -/
theorem run_inside_last {value : Nat} {low high b : UInt8} (rest : Bytes)
    (hlow : low ≤ b) (hhigh : b ≤ high) :
    run (.inside 1 low high value) (b :: rest) =
      some (Char.ofNat (value * 64 + (b.toNat - 0x80))) :: run .boundary rest := by
  simp only [run, step]
  rw [if_pos ⟨hlow, hhigh⟩, if_pos (Nat.le_refl 1)]
  rfl

/-- The byte that carries six bits. -/
def tail (bits : Nat) : UInt8 := UInt8.ofNat (bits % 64 + 0x80)

theorem ofNat_eq_tail (bits : Nat) : UInt8.ofNat (bits % 0x40 + 0x80) = tail bits := rfl

theorem toNat_tail (bits : Nat) : (tail bits).toNat = bits % 64 + 0x80 := by
  rw [tail, UInt8.toNat_ofNat']
  omega

theorem low_le_tail (bits : Nat) : 0x80 ≤ tail bits := by
  rw [UInt8.le_iff_toNat_le, toNat_tail]
  exact Nat.le_add_left _ _

theorem tail_le_high (bits : Nat) : tail bits ≤ 0xBF := by
  rw [UInt8.le_iff_toNat_le, toNat_tail]
  change _ ≤ 191
  omega

/-! ### Leading bytes -/

/-- A byte below 80 hexadecimal is a character. -/
theorem lead_one {n : Nat} (h : n < 0x80) :
    lead (UInt8.ofNat n) = some (.inl (Char.ofNat n)) := by
  have hn : (UInt8.ofNat n).toNat = n := by rw [UInt8.toNat_ofNat']; omega
  rw [lead, if_pos (by rw [UInt8.lt_iff_toNat_lt, hn]; exact h), hn]

/-- A byte from C2 to DF hexadecimal leads a character of two bytes. -/
theorem lead_two {n : Nat} (hlow : 2 ≤ n) (hhigh : n < 32) :
    lead (UInt8.ofNat (n + 0xC0)) = some (.inr (.inside 1 0x80 0xBF n)) := by
  interval_cases n <;> rfl

/-- The second byte of three is limited after the first and the fourteenth leading byte. -/
theorem lead_three {n m : Nat} (hn : n < 16) (hfirst : n = 0 → 32 ≤ m % 64)
    (hsurrogate : n = 13 → m % 64 < 32) :
    ∃ low high, lead (UInt8.ofNat (n + 0xE0)) = some (.inr (.inside 2 low high n)) ∧
      low ≤ tail m ∧ tail m ≤ high := by
  have hm : m % 64 < 64 := Nat.mod_lt _ (by omega)
  simp only [UInt8.le_iff_toNat_le, toNat_tail]
  interval_cases n <;> refine ⟨_, _, rfl, ?_, ?_⟩ <;> simp at hfirst hsurrogate ⊢ <;> omega

/-- The second byte of four is limited after the first and the last leading byte. -/
theorem lead_four {n m : Nat} (hn : n < 5) (hfirst : n = 0 → 16 ≤ m % 64)
    (hlast : n = 4 → m % 64 < 16) :
    ∃ low high, lead (UInt8.ofNat (n + 0xF0)) = some (.inr (.inside 3 low high n)) ∧
      low ≤ tail m ∧ tail m ≤ high := by
  have hm : m % 64 < 64 := Nat.mod_lt _ (by omega)
  simp only [UInt8.le_iff_toNat_le, toNat_tail]
  interval_cases n <;> refine ⟨_, _, rfl, ?_, ?_⟩ <;> simp at hfirst hlast ⊢ <;> omega

/-- A leading byte says how the rest is read. -/
theorem run_lead {b : UInt8} {state : Utf8State} (rest : Bytes)
    (h : lead b = some (.inr state)) : run .boundary (b :: rest) = run state rest := by
  rw [run_boundary_cons, start, h]
  rfl

/-! ### Characters -/

/-- One character is read from its bytes, and the decoder is at a boundary again. -/
theorem run_utf8EncodeChar (c : Char) (rest : Bytes) :
    run .boundary (String.utf8EncodeChar c ++ rest) = some c :: run .boundary rest := by
  obtain ⟨v, hv⟩ : ∃ v, v = c.val.toNat := ⟨_, rfl⟩
  have hc : Char.ofNat v = c := by rw [hv]; exact Char.ofNat_toNat c
  have hvalid : v < 0xD800 ∨ 0xDFFF < v ∧ v < 0x110000 := by rw [hv]; exact c.valid
  simp only [String.utf8EncodeChar, ← hv, ofNat_eq_tail]
  split
  · -- one byte
    have hb : lead (UInt8.ofNat v) = _ := lead_one (by omega)
    rw [List.singleton_append, run_boundary_cons, start, hb, hc]
    rfl
  split
  · -- two bytes
    have hmod : v / 64 % 0x20 = v / 64 := by omega
    have hvalue : v / 64 * 64 + (v % 64 + 0x80 - 0x80) = v := by omega
    have hb := lead_two (n := v / 64) (by omega) (by omega)
    rw [hmod, List.cons_append, List.singleton_append, run_lead _ hb,
      run_inside_last _ (low_le_tail v) (tail_le_high v)]
    simp only [toNat_tail]
    rw [hvalue, hc]
  split
  · -- three bytes
    have hmod : v / 4096 % 0x10 = v / 4096 := by omega
    have hvalue :
        (v / 4096 * 64 + (v / 64 % 64 + 0x80 - 0x80)) * 64 + (v % 64 + 0x80 - 0x80) = v := by
      omega
    obtain ⟨low, high, hb, hlow, hhigh⟩ :=
      lead_three (n := v / 4096) (m := v / 64) (by omega) (by omega) (by omega)
    rw [hmod, List.cons_append, List.cons_append, List.singleton_append, run_lead _ hb,
      run_inside_more 2 _ (Nat.lt_succ_self 1) hlow hhigh,
      run_inside_last _ (low_le_tail v) (tail_le_high v)]
    simp only [toNat_tail]
    rw [hvalue, hc]
  · -- four bytes
    have hmod : v / 262144 % 0x08 = v / 262144 := by omega
    have hvalue : ((v / 262144 * 64 + (v / 4096 % 64 + 0x80 - 0x80)) * 64 +
        (v / 64 % 64 + 0x80 - 0x80)) * 64 + (v % 64 + 0x80 - 0x80) = v := by omega
    obtain ⟨low, high, hb, hlow, hhigh⟩ :=
      lead_four (n := v / 262144) (m := v / 4096) (by omega) (by omega) (by omega)
    rw [hmod, List.cons_append, List.cons_append, List.cons_append, List.singleton_append,
      run_lead _ hb, run_inside_more 3 _ (by decide) hlow hhigh,
      run_inside_more 2 _ (by decide) (low_le_tail (v / 64)) (tail_le_high (v / 64)),
      run_inside_last _ (low_le_tail v) (tail_le_high v)]
    simp only [toNat_tail]
    rw [hvalue, hc]

/-- The bytes of characters, one after the other, are read as these characters. -/
theorem run_flatMap_utf8EncodeChar (characters : List Char) :
    run .boundary (characters.flatMap String.utf8EncodeChar) = characters.map some := by
  induction characters with
  | nil => rfl
  | cons c rest ih => rw [List.flatMap_cons, run_utf8EncodeChar, ih, List.map_cons]

/-! ### From characters to bytes -/

/-- A character is known but for `missing` bytes: whatever they are, if the next one is between
`low` and `high`, what has been read and they are the bytes of the character that comes out. -/
def Completes : Nat → UInt8 → UInt8 → Nat → Bytes → Prop
  | 0, _, _, value, read => String.utf8EncodeChar (Char.ofNat value) = read
  | missing + 1, low, high, value, read => ∀ b, low ≤ b → b ≤ high →
    Completes missing 0x80 0xBF (value * 64 + (b.toNat - 0x80)) (read ++ [b])

/-- A number that is no surrogate and in range is that of a character. -/
theorem val_ofNat {v : Nat} (h : v < 0xD800 ∨ 0xDFFF < v ∧ v < 0x110000) :
    (Char.ofNat v).val.toNat = v := by
  have hvalid : v.isValidChar := h
  rw [Char.ofNat, dif_pos hvalid]
  rfl

theorem ofNat_eq_of_toNat {n : Nat} {b : UInt8} (h : n = b.toNat) : UInt8.ofNat n = b := by
  rw [h, UInt8.ofNat_toNat]

/-- A byte below 80 hexadecimal is the character that it encodes. -/
theorem completes_one {b : UInt8} (h : b < 0x80) :
    Completes 0 0x80 0xBF b.toNat [b] := by
  have hb : b.toNat < 0x80 := UInt8.lt_iff_toNat_lt.mp h
  simp only [Completes, String.utf8EncodeChar, val_ofNat (v := b.toNat) (by omega)]
  rw [if_pos (by omega), UInt8.ofNat_toNat]

/-- Two bytes are the character of their eleven bits. -/
theorem completes_two {b : UInt8} {n : Nat} (hb : b.toNat = 0xC0 + n) (hlow : 2 ≤ n)
    (hhigh : n < 32) : Completes 1 0x80 0xBF n [b] := by
  intro t ht ht'
  have ht : 0x80 ≤ t.toNat := UInt8.le_iff_toNat_le.mp ht
  have ht' : t.toNat ≤ 0xBF := UInt8.le_iff_toNat_le.mp ht'
  obtain ⟨v, hv⟩ : ∃ v, v = n * 64 + (t.toNat - 0x80) := ⟨_, rfl⟩
  simp only [Completes, ← hv, String.utf8EncodeChar, val_ofNat (v := v) (by omega)]
  rw [if_neg (by omega), if_pos (by omega), ofNat_eq_of_toNat (b := b) (by omega),
    ofNat_eq_of_toNat (b := t) (by omega)]
  rfl

/-- The second byte may be limited, so that the character is neither overlong nor a surrogate. -/
theorem completes_three {b low high : UInt8} {n : Nat} (hb : b.toNat = 0xE0 + n) (hn : n < 16)
    (htail : 0x80 ≤ low.toNat ∧ high.toNat ≤ 0xBF) (hfirst : n = 0 → 0xA0 ≤ low.toNat)
    (hsurrogate : n = 13 → high.toNat < 0xA0) : Completes 2 low high n [b] := by
  intro t ht ht' u hu hu'
  have ht := UInt8.le_iff_toNat_le.mp ht
  have ht' := UInt8.le_iff_toNat_le.mp ht'
  have hu : 0x80 ≤ u.toNat := UInt8.le_iff_toNat_le.mp hu
  have hu' : u.toNat ≤ 0xBF := UInt8.le_iff_toNat_le.mp hu'
  obtain ⟨v, hv⟩ : ∃ v, v = (n * 64 + (t.toNat - 0x80)) * 64 + (u.toNat - 0x80) :=
    ⟨_, rfl⟩
  simp only [Completes, ← hv, String.utf8EncodeChar, val_ofNat (v := v) (by omega)]
  rw [if_neg (by omega), if_neg (by omega), if_pos (by omega),
    ofNat_eq_of_toNat (b := b) (by omega), ofNat_eq_of_toNat (b := t) (by omega),
    ofNat_eq_of_toNat (b := u) (by omega)]
  rfl

/-- The second byte may be limited, so that the character is neither overlong nor too large. -/
theorem completes_four {b low high : UInt8} {n : Nat} (hb : b.toNat = 0xF0 + n) (hn : n < 5)
    (htail : 0x80 ≤ low.toNat ∧ high.toNat ≤ 0xBF) (hfirst : n = 0 → 0x90 ≤ low.toNat)
    (hlast : n = 4 → high.toNat < 0x90) : Completes 3 low high n [b] := by
  intro t ht ht' u hu hu' w hw hw'
  have ht := UInt8.le_iff_toNat_le.mp ht
  have ht' := UInt8.le_iff_toNat_le.mp ht'
  have hu : 0x80 ≤ u.toNat := UInt8.le_iff_toNat_le.mp hu
  have hu' : u.toNat ≤ 0xBF := UInt8.le_iff_toNat_le.mp hu'
  have hw : 0x80 ≤ w.toNat := UInt8.le_iff_toNat_le.mp hw
  have hw' : w.toNat ≤ 0xBF := UInt8.le_iff_toNat_le.mp hw'
  obtain ⟨v, hv⟩ : ∃ v, v = ((n * 64 + (t.toNat - 0x80)) * 64 +
    (u.toNat - 0x80)) * 64 + (w.toNat - 0x80) := ⟨_, rfl⟩
  simp only [Completes, ← hv, String.utf8EncodeChar, val_ofNat (v := v) (by omega)]
  rw [if_neg (by omega), if_neg (by omega), if_neg (by omega),
    ofNat_eq_of_toNat (b := b) (by omega), ofNat_eq_of_toNat (b := t) (by omega),
    ofNat_eq_of_toNat (b := u) (by omega), ofNat_eq_of_toNat (b := w) (by omega)]
  rfl

/-- A leading byte alone. -/
theorem encode_of_lead {b : UInt8} {c : Char} (h : lead b = some (.inl c)) :
    String.utf8EncodeChar c = [b] := by
  unfold lead at h
  split at h
  case isTrue hb =>
    cases h
    exact completes_one hb
  case isFalse => grind

/-- Where a leading byte that is not alone takes the decoder. -/
theorem completes_of_lead {b : UInt8} {state : Utf8State} (h : lead b = some (.inr state)) :
    ∃ missing low high value, state = .inside (missing + 1) low high value ∧
      Completes (missing + 1) low high value [b] := by
  simp only [lead, UInt8.lt_iff_toNat_lt, ← UInt8.toNat_inj] at h
  split_ifs at h with h80 hC2 hE0 heqE0 heqED hF0 heqF0 hF4 heqF4 <;> cases h
  -- One case for each range of leading bytes, in the order of `lead`.
  all_goals simp only [UInt8.toNat_ofNat] at *
  · exact ⟨_, _, _, _, rfl, completes_two (n := b.toNat - 0xC0) (by omega) (by omega) (by omega)⟩
  · exact ⟨_, _, _, _, rfl, completes_three heqE0 (by decide) (by decide) (by decide) (by decide)⟩
  · exact ⟨_, _, _, _, rfl, completes_three heqED (by decide) (by decide) (by decide) (by decide)⟩
  · exact ⟨_, _, _, _, rfl, completes_three (n := b.toNat - 0xE0) (by omega) (by omega) (by decide)
      (by omega) (by omega)⟩
  · exact ⟨_, _, _, _, rfl, completes_four heqF0 (by decide) (by decide) (by decide) (by decide)⟩
  · exact ⟨_, _, _, _, rfl, completes_four (n := b.toNat - 0xF0) (by omega) (by omega) (by decide)
      (by omega) (by omega)⟩
  · exact ⟨_, _, _, _, rfl, completes_four heqF4 (by decide) (by decide) (by decide) (by decide)⟩

/-- The state of the decoder fits to the bytes of the current character that it has read. -/
def Stands : Utf8State → Bytes → Prop
  | .boundary, read => read = []
  | .inside missing low high value, read => 0 < missing ∧ Completes missing low high value read

/-- Before the first byte nothing has been read. -/
theorem stands_boundary : Stands .boundary [] := rfl

/-- One byte, unless it is ill-formed: it ends a character, or takes the decoder further into it. -/
theorem step_eq {state : Utf8State} {read : Bytes} (b : UInt8) (stands : state.Stands read) :
    none ∈ (state.step b).1 ∨
    (∃ c, state.step b = ([some c], .boundary) ∧ String.utf8EncodeChar c = read ++ [b]) ∨
    ∃ next : Utf8State, state.step b = ([], next) ∧ next.Stands (read ++ [b]) := by
  -- At a boundary a byte is a character or leads one; inside of one it has to be in the range that
  -- the bytes before allow.
  cases state with
  | boundary =>
    obtain rfl : read = [] := stands
    simp only [step, start]
    split
    · exact .inl (List.mem_singleton_self _)
    · next c hlead => exact .inr (.inl ⟨c, rfl, encode_of_lead hlead⟩)
    · next next hlead =>
      obtain ⟨missing, low, high, value, rfl, completes⟩ := completes_of_lead hlead
      exact .inr (.inr ⟨_, rfl, Nat.succ_pos _, completes⟩)
  | inside missing low high value =>
    obtain ⟨hmissing, completes⟩ := stands
    obtain ⟨missing, rfl⟩ := Nat.exists_eq_succ_of_ne_zero (Nat.ne_of_gt hmissing)
    by_cases hrange : low ≤ b ∧ b ≤ high
    · have completes := completes b hrange.1 hrange.2
      simp only [step, if_pos hrange]
      cases missing with
      | zero => exact .inr (.inl ⟨_, rfl, completes⟩)
      | succ missing => exact .inr (.inr ⟨_, rfl, Nat.succ_pos _, completes⟩)
    · refine .inl ?_
      simp only [step, if_neg hrange]
      exact List.mem_cons_self

/-- The characters that are read, when no piece is ill-formed, have the bytes as their UTF-8
form. -/
theorem flatMap_of_run (bytes : Bytes) {state : Utf8State} {read : Bytes} {characters : List Char}
    (stands : state.Stands read) (h : run state bytes = characters.map some) :
    characters.flatMap String.utf8EncodeChar = read ++ bytes := by
  -- The bytes that were read since the last boundary are carried along, since a character is known
  -- only at its last byte.
  induction bytes generalizing state read characters with
  | nil =>
    cases state with
    | boundary =>
      obtain rfl : read = [] := stands
      obtain rfl : characters = [] := List.map_eq_nil_iff.mp h.symm
      rfl
    | inside =>
      have hmem : none ∈ characters.map some := h ▸ List.mem_singleton_self none
      simp at hmem
  | cons b rest ih =>
    have hrun : (state.step b).1 ++ run (state.step b).2 rest = characters.map some := by
      rw [← h]
      cases state <;> rfl
    rw [List.append_cons]
    obtain hbad | ⟨c, hstep, hc⟩ | ⟨next, hstep, hnext⟩ := step_eq b stands
    · have hmem : none ∈ characters.map some := hrun ▸ List.mem_append_left _ hbad
      simp at hmem
    · rw [hstep] at hrun
      cases characters with
      | nil => cases hrun
      | cons first others =>
        obtain ⟨hfirst, hothers⟩ := List.cons.inj hrun
        have hrest := ih stands_boundary hothers
        rw [List.flatMap_cons, ← Option.some.inj hfirst, hc, hrest, List.nil_append]
    · rw [hstep] at hrun
      exact ih hnext hrun

end Utf8State

/-! ### Texts -/

/-- A text is encoded character by character. -/
theorem utf8_eq_flatMap (text : String) :
    utf8 text = text.toList.flatMap String.utf8EncodeChar := by
  have h : text.toByteArray = text.toList.utf8Encode := by
    rw [← String.toByteArray_ofList, String.ofList_toList]
  rw [utf8, String.toUTF8_eq_toByteArray, h, List.utf8Encode]
  simp

/-- All values are there exactly if none is missing. -/
theorem mapM_id_eq_some_iff {α : Type} {items : List (Option α)} {values : List α} :
    items.mapM id = some values ↔ items = values.map some := by
  induction items generalizing values with
  | nil => cases values <;> simp
  | cons a rest ih =>
    cases values with
    | nil => simp [List.mapM_cons, Option.bind_eq_some_iff]
    | cons value values => simp [List.mapM_cons, Option.bind_eq_some_iff, ih]

/-- What was stored as UTF-8 is read back. -/
theorem decodeUtf8?_utf8 (text : String) : decodeUtf8? (utf8 text) = some text := by
  rw [decodeUtf8?, utf8_eq_flatMap, Utf8State.run_flatMap_utf8EncodeChar,
    mapM_id_eq_some_iff.mpr rfl]
  simp

/-- The bytes of a text that was read are its UTF-8 form. -/
theorem utf8_of_decodeUtf8? {bytes : Bytes} {text : String} (h : decodeUtf8? bytes = some text) :
    utf8 text = bytes := by
  obtain ⟨characters, hcharacters, rfl⟩ := Option.map_eq_some_iff.mp h
  have hbytes := Utf8State.flatMap_of_run bytes Utf8State.stands_boundary
    (mapM_id_eq_some_iff.mp hcharacters)
  rw [utf8_eq_flatMap, String.toList_ofList, hbytes, List.nil_append]

end TagSchema.Text
