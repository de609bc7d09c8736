import TagSchema.FixedText
import TagSchema.Proofs.Text.Utf8

/-!
# Texts that are cut to fit

A fixed text keeps the first thirty-one bytes of a text. The cut is made between two bytes, so it
can fall inside a character. A well-formed text has no other ill-formed piece than the one that the
cut leaves over, and reading shows one replacement character for it. So what is read back is a start
of the text unless the cut severs a character, and no start of it if it does, but for one: severing
a replacement character is not seen.
-/

namespace TagSchema

namespace Text

/-! ### Cuts -/

/-- The characters at the start of a text that have room in so many bytes. -/
def fitting (room : Nat) : List Char → List Char
  | [] => []
  | c :: rest => if c.utf8Size ≤ room then c :: fitting (room - c.utf8Size) rest else []

/-- The character that a cut after so many bytes falls inside of. -/
def severed? (room : Nat) : List Char → Option Char
  | [] => none
  | c :: rest =>
    if c.utf8Size ≤ room then severed? (room - c.utf8Size) rest
    else if room = 0 then none
    else some c

/-- What is left of a severed character when it is read. -/
def replacement : Option Char → List Char
  | none => []
  | some _ => ['\uFFFD']

theorem isPrefix_fitting (room : Nat) (text : List Char) : fitting room text <+: text := by
  induction text generalizing room with
  | nil => exact List.prefix_rfl
  | cons c rest ih =>
    rw [fitting]
    split
    · exact List.prefix_cons_inj c |>.mpr (ih _)
    · exact List.nil_prefix

/-- The severed character comes right after those that fit. -/
theorem isPrefix_fitting_append {room : Nat} {text : List Char} {c : Char}
    (cut : severed? room text = some c) : fitting room text ++ [c] <+: text := by
  induction text generalizing room with
  | nil => cases cut
  | cons first rest ih =>
    rw [severed?] at cut
    rw [fitting]
    split
    · rename_i fits
      rw [if_pos fits] at cut
      exact List.prefix_cons_inj first |>.mpr (ih cut)
    · -- The first character that does not fit is severed, unless the room ends right before it.
      rename_i wide
      rw [if_neg wide] at cut
      split at cut
      · cases cut
      · obtain rfl := Option.some.inj cut
        exact ⟨rest, rfl⟩

/-- A text that has room as a whole is not cut. -/
theorem fitting_of_length_le {room : Nat} {text : List Char}
    (h : (text.flatMap String.utf8EncodeChar).length ≤ room) :
    fitting room text = text ∧ severed? room text = none := by
  induction text generalizing room with
  | nil => exact ⟨rfl, rfl⟩
  | cons c rest ih =>
    rw [List.flatMap_cons, List.length_append, String.length_utf8EncodeChar] at h
    have fits : c.utf8Size ≤ room := by omega
    have others : (rest.flatMap String.utf8EncodeChar).length ≤ room - c.utf8Size := by omega
    obtain ⟨whole, uncut⟩ := ih others
    rw [fitting, severed?, if_pos fits, if_pos fits, whole]
    exact ⟨rfl, uncut⟩

/-- What a cut leaves, read with a replacement for the severed character, is a start of the text
just if no character is severed that differs from its replacement. -/
theorem fitting_append_replacement_prefix_iff (room : Nat) (text : List Char) :
    fitting room text ++ replacement (severed? room text) <+: text ↔
      ∀ c, severed? room text = some c → c = '\uFFFD' := by
  cases cut : severed? room text with
  | none =>
    rw [replacement, List.append_nil]
    exact iff_of_true (isPrefix_fitting room text) (by rintro c ⟨⟩)
  | some c =>
    have next := isPrefix_fitting_append cut
    refine ⟨?_, ?_⟩
    · rintro same d ⟨⟩
      have both := List.prefix_of_prefix_length_le next same (by simp [replacement])
      have equal := both.eq_of_length (by simp [replacement])
      exact List.singleton_inj.mp (List.append_cancel_left equal)
    · intro only
      rw [replacement, ← only c rfl]
      exact next

/-! ### Reading what a cut leaves -/

namespace Utf8State

/-- A byte that ends no character leads into one. -/
theorem step_nonempty_or_inside (state : Utf8State) (b : UInt8) :
    (state.step b).1 ≠ [] ∨
      ∃ missing low high value, (state.step b).2 = .inside missing low high value := by
  -- A byte that gives no character leads one.
  have lead : (start b).1 ≠ [] ∨
      ∃ missing low high value, (start b).2 = .inside missing low high value := by
    rw [start]
    split
    · exact .inl (List.cons_ne_nil _ _)
    · exact .inl (List.cons_ne_nil _ _)
    · rename_i next hnext
      obtain ⟨missing, low, high, value, rfl, -⟩ := completes_of_lead hnext
      exact .inr ⟨_, _, _, _, rfl⟩
  cases state with
  | boundary => exact lead
  | inside missing low high value =>
    simp only [step]
    split
    · split
      · exact .inl (List.cons_ne_nil _ _)
      · exact .inr ⟨_, _, _, _, rfl⟩
    · exact .inl (List.cons_ne_nil _ _)

theorem run_cons (state : Utf8State) (b : UInt8) (rest : Bytes) :
    run state (b :: rest) = (state.step b).1 ++ run (state.step b).2 rest := by
  cases state <;> rfl

theorem run_ne_nil (state : Utf8State) {bytes : Bytes} (h : bytes ≠ []) : run state bytes ≠ [] := by
  induction bytes generalizing state with
  | nil => exact absurd rfl h
  | cons b rest ih =>
    rw [run_cons]
    obtain shown | ⟨missing, low, high, value, into⟩ := step_nonempty_or_inside state b
    · exact List.append_ne_nil_of_left_ne_nil shown _
    · refine List.append_ne_nil_of_right_ne_nil _ ?_
      cases rest with
      | nil => rw [into]; exact List.cons_ne_nil _ _
      | cons => exact ih _ (List.cons_ne_nil _ _)

/-- If bytes are read as one character, a part of them from their start is read as one error. -/
theorem run_of_run_append {state : Utf8State} {piece rest : Bytes} {c : Option Char}
    (whole : run state (piece ++ rest) = [c]) (cut : rest ≠ [])
    (begun : piece ≠ [] ∨ ∃ missing low high value, state = .inside missing low high value) :
    run state piece = [none] := by
  induction piece generalizing state with
  | nil =>
    obtain nothing | ⟨missing, low, high, value, rfl⟩ := begun
    · exact absurd rfl nothing
    · rfl
  | cons b piece ih =>
    have later := run_ne_nil (state.step b).2 (List.append_ne_nil_of_right_ne_nil piece cut)
    rw [List.cons_append, run_cons] at whole
    obtain ⟨silent, whole⟩ | ⟨-, ended⟩ := List.append_eq_singleton_iff.mp whole
    · obtain shown | into := step_nonempty_or_inside state b
      · exact absurd silent shown
      · rw [run_cons, silent, List.nil_append]
        exact ih whole (.inr into)
    · exact absurd ended later

/-- The start of a text in UTF-8 is read as the characters that fit, and an error for the severed
one. -/
theorem run_take (room : Nat) (text : List Char) :
    run .boundary ((text.flatMap String.utf8EncodeChar).take room) =
      (fitting room text).map some ++ (severed? room text).toList.map fun _ => none := by
  induction text generalizing room with
  | nil => rw [List.flatMap_nil, List.take_nil]; rfl
  | cons c rest ih =>
    have length := String.length_utf8EncodeChar c
    rw [List.flatMap_cons, fitting, severed?]
    -- A character that fits is read as itself, and the cut comes later.
    by_cases fits : c.utf8Size ≤ room
    · rw [if_pos fits, if_pos fits, List.take_append, List.take_of_length_le (by omega), length,
        run_utf8EncodeChar, ih]
      rfl
    rw [if_neg fits, if_neg fits, List.take_append_of_le_length (by omega)]
    by_cases none : room = 0
    · rw [if_pos none, none]
      rfl
    · rw [if_neg none]
      -- The character is cut in two: its first part is the beginning of a character, so it ends in
      -- one error and not in several.
      have whole : run .boundary ((String.utf8EncodeChar c).take room ++
          (String.utf8EncodeChar c).drop room) = [some c] := by
        rw [List.take_append_drop, ← List.append_nil (String.utf8EncodeChar c),
          run_utf8EncodeChar]
        rfl
      refine run_of_run_append whole ?_ ?_
      · exact List.ne_nil_of_length_pos (by rw [List.length_drop]; omega)
      · exact .inl (List.ne_nil_of_length_pos (by rw [List.length_take]; omega))

end Utf8State

theorem toList_decodeUtf8Lossy_take (room : Nat) (text : String) :
    (decodeUtf8Lossy ((utf8 text).take room)).toList =
      fitting room text.toList ++ replacement (severed? room text.toList) := by
  rw [decodeUtf8Lossy, String.toList_ofList, utf8_eq_flatMap, Utf8State.run_take, List.map_append,
    List.map_map]
  refine congr (congrArg _ (List.map_id _)) ?_
  cases severed? room text.toList <;> rfl

/-! ### Zero bytes -/

/-- The only character with a zero byte in its UTF-8 form is the zero character. -/
theorem zero_mem_utf8EncodeChar {c : Char} (h : 0 ∈ String.utf8EncodeChar c) : c = '\x00' := by
  have zero : c.val.toNat = 0 := by
    simp only [String.utf8EncodeChar] at h
    split_ifs at h <;>
      simp only [List.mem_cons, List.not_mem_nil, or_false, ← UInt8.toNat_inj, UInt8.toNat_ofNat',
        UInt8.toNat_zero] at h <;> omega
  rw [← Char.ofNat_toNat c, Char.toNat, zero]

theorem zero_notMem_utf8 {text : String} (plain : '\x00' ∉ text.toList) : 0 ∉ utf8 text := by
  rw [utf8_eq_flatMap, List.mem_flatMap]
  rintro ⟨c, mem, zero⟩
  exact plain (zero_mem_utf8EncodeChar zero ▸ mem)

end Text

namespace FixedText

/-- The bytes that are kept are followed by at least one zero. -/
theorem bytes_ofText (text : String) :
    ∃ n, ((Text.utf8 text).take 31).length + n = 31 ∧
      (ofText text).bytes = (Text.utf8 text).take 31 ++ 0 :: Bytes.zeros n := by
  have short : ((Text.utf8 text).take 31).length ≤ 31 := List.length_take_le 31 _
  refine ⟨31 - ((Text.utf8 text).take 31).length, by omega, ?_⟩
  have filled : 32 - ((Text.utf8 text).take 31).length =
      31 - ((Text.utf8 text).take 31).length + 1 := by omega
  simp only [ofText, ofBytes]
  rw [List.take_of_length_le (by omega), filled]
  rfl

theorem content_ofText {text : String} (plain : '\x00' ∉ text.toList) :
    (ofText text).content = (Text.utf8 text).take 31 := by
  have nonzero : ∀ b ∈ (Text.utf8 text).take 31, decide (b ≠ 0) = true := by
    rintro b mem
    refine decide_eq_true ?_
    rintro rfl
    exact Text.zero_notMem_utf8 plain (List.mem_of_mem_take mem)
  obtain ⟨n, -, bytes⟩ := bytes_ofText text
  rw [content, bytes, List.takeWhile_append_of_pos nonzero]
  exact List.append_nil _

/-- **Fixed texts.** The last byte is zero, and a text without zero characters that has room is read
back. From a longer one the characters that fit are read back, and a replacement character for one
that is severed: this is a start of the text unless the character that is severed is another one
than its replacement. -/
theorem toText_ofText (text : String) (plain : '\x00' ∉ text.toList) :
    (ofText text).bytes[31]? = some 0 ∧
    ((Text.utf8 text).length ≤ 31 → (ofText text).toText = text) ∧
    (ofText text).toText.toList =
      Text.fitting 31 text.toList ++ Text.replacement (Text.severed? 31 text.toList) ∧
    ((ofText text).toText.toList <+: text.toList ↔
      ∀ c, Text.severed? 31 text.toList = some c → c = '\uFFFD') := by
  have read : (ofText text).toText.toList =
      Text.fitting 31 text.toList ++ Text.replacement (Text.severed? 31 text.toList) := by
    rw [toText, content_ofText plain, Text.toList_decodeUtf8Lossy_take]
  refine ⟨?_, ?_, read, ?_⟩
  · obtain ⟨n, length, bytes⟩ := bytes_ofText text
    have zeros : 0 :: Bytes.zeros n = List.replicate (n + 1) (0 : UInt8) := rfl
    rw [bytes, List.getElem?_append_right (by omega), zeros, List.getElem?_replicate,
      if_pos (by omega)]
  · intro short
    rw [Text.utf8_eq_flatMap] at short
    obtain ⟨whole, uncut⟩ := Text.fitting_of_length_le short
    rw [← String.toList_inj, read, whole, uncut]
    exact List.append_nil _
  · rw [read]
    exact Text.fitting_append_replacement_prefix_iff 31 text.toList

/-- The last character that fits has two bytes and takes up the room to its end. -/
theorem toText_ofText_nee :
    '\x00' ∉ "the first thirty-one bytes, née".toList ∧
    (ofText "the first thirty-one bytes, née").bytes[31]? = some 0 ∧
    (ofText "the first thirty-one bytes, née").toText = "the first thirty-one bytes, né" ∧
    (ofText "the first thirty-one bytes, née").toText.toList <+:
      "the first thirty-one bytes, née".toList := by
  have plain : '\x00' ∉ "the first thirty-one bytes, née".toList := by decide +kernel
  have uncut : Text.severed? 31 "the first thirty-one bytes, née".toList = none := by decide +kernel
  have fits : Text.fitting 31 "the first thirty-one bytes, née".toList =
      "the first thirty-one bytes, né".toList := by decide +kernel
  obtain ⟨last, -, read, start⟩ := toText_ofText "the first thirty-one bytes, née" plain
  refine ⟨plain, last, ?_, start.mpr fun c severed => ?_⟩
  · rw [← String.toList_inj, read, uncut, fits]
    rfl
  · rw [uncut] at severed
    cases severed

/-- What is read back of a severed character is not in the text. -/
theorem toText_ofText_cherie :
    '\x00' ∉ "the first thirty-one bytes, chérie".toList ∧
    ¬ (ofText "the first thirty-one bytes, chérie").toText.toList <+:
      "the first thirty-one bytes, chérie".toList := by
  decide +kernel

end FixedText

end TagSchema
