import Mathlib
import TagSchema.Schema.Names
import TagSchema.Text.Hex

/-!
# What names keep apart

Names become identifiers and constants by dropping and replacing characters, so different names may
become one. What is left of a name in a constant is a word of small letters, digits and underscores
without underscores at its ends, and two constants of a type are the same exactly when their words
are (`Names.optionConstant_inj`). Numbers are kept apart by their hexadecimal digits
(`Text.hex_inj`).
-/

namespace TagSchema

namespace Text

/-! ### Hexadecimal digits -/

/-- Digits of different value are different. -/
theorem digitChar_inj {m n : Nat} (hm : m < 16) (hn : n < 16)
    (same : Nat.digitChar m = Nat.digitChar n) : m = n := by
  have all : ∀ m < 16, ∀ n < 16, Nat.digitChar m = Nat.digitChar n → m = n := by decide
  exact all m hm n hn same

/-- Numbers are told apart by their digits. -/
theorem toDigits_inj {m n : Nat} (same : Nat.toDigits 16 m = Nat.toDigits 16 n) : m = n := by
  have nonempty : ∀ k, Nat.toDigits 16 k ≠ [] := fun _ => Nat.toDigits_ne_nil
  induction m using Nat.strongRecOn generalizing n with
  | ind m ih =>
    rw [Nat.toDigits_eq_if (by decide), Nat.toDigits_eq_if (n := n) (by decide)] at same
    split at same <;> split at same
    · exact digitChar_inj ‹_› ‹_› (List.singleton_inj.mp same)
    -- One digit is not two.
    · exact absurd same (by simp [List.singleton_eq_append_iff, nonempty])
    · exact absurd same (by simp [List.append_eq_singleton_iff, nonempty])
    · obtain ⟨front, last⟩ := List.append_inj' same rfl
      have := ih (m / 16) (by omega) front
      have := digitChar_inj (Nat.mod_lt _ (by decide)) (Nat.mod_lt _ (by decide))
        (List.singleton_inj.mp last)
      omega

/-- Different numbers have different hexadecimal forms. -/
theorem hex_inj {m n : Nat} : hex m = hex n ↔ m = n := by
  refine ⟨fun same => toDigits_inj ?_, congrArg hex⟩
  simpa [hex, hexDigits, String.ofList_inj] using same

/-! ### Lower case -/

theorem toNat_ofNat_of_lt {n : Nat} (h : n < 256) : (Char.ofNat n).toNat = n := by
  rw [Char.toNat_ofNat, if_pos (.inl (by omega))]

/-- The character is a capital letter of the Latin alphabet. -/
def IsCapital (c : Char) : Prop := 65 ≤ c.toNat ∧ c.toNat ≤ 90

instance : DecidablePred IsCapital := fun _ => inferInstanceAs (Decidable (_ ∧ _))

theorem isCapital_iff {c : Char} : IsCapital c ↔ 'A' ≤ c ∧ c ≤ 'Z' := Iff.rfl

/-- No run of the lower-case map meets the capital letters. -/
theorem lowercaseRuns_avoid : ∀ run ∈ lowercaseRuns,
    (run.last : Int) + run.shift < 65 ∨ 90 < (run.first : Int) + run.shift := by
  decide +kernel

/-- No lower-case form has a capital letter in it. -/
theorem not_isCapital_of_mem_lowercaseChar {c lower : Char} (h : lower ∈ lowercaseChar c) :
    ¬ IsCapital lower := by
  -- The lower-case form of a character is its own, one of two, one in a run, or the character
  -- itself.
  unfold lowercaseChar at h
  split at h
  · rename_i ascii
    rw [List.mem_singleton] at h
    subst h
    split
    · rename_i capital
      obtain ⟨low, high⟩ := isCapital_iff.mpr capital
      rw [IsCapital, toNat_ofNat_of_lt (by omega)]
      omega
    · assumption
  · split at h
    · simp only [List.mem_cons, List.not_mem_nil, or_false] at h
      obtain rfl | rfl := h <;> decide
    · split at h
      · rename_i run found
        rw [List.mem_singleton] at h
        subst h
        have inside := List.find?_some found
        have avoids := lowercaseRuns_avoid run (List.mem_of_find?_eq_some found)
        simp only [decide_eq_true_eq] at inside
        rw [IsCapital, Char.toNat_ofNat]
        split <;> omega
      · rw [List.mem_singleton] at h
        subst h
        rw [IsCapital]
        omega

theorem not_isCapital_of_mem_lowercaseAfter {before text : List Char} {c : Char}
    (h : c ∈ lowercaseAfter before text) : ¬ IsCapital c := by
  induction text generalizing before with
  | nil => cases h
  | cons first rest ih =>
    rw [lowercaseAfter] at h
    obtain here | there := List.mem_append.mp h
    · split at here
      · rw [List.mem_singleton] at here
        subst here
        split <;> decide
      · exact not_isCapital_of_mem_lowercaseChar here
    · exact ih there

end Text

namespace Names

/-! ### Identifiers -/

/-- The character is a small letter, a digit or an underscore. -/
def IsPlain (c : Char) : Prop := ('a' ≤ c ∧ c ≤ 'z') ∨ ('0' ≤ c ∧ c ≤ '9') ∨ c = '_'

/-- A letter or a digit that is no capital is plain. -/
theorem isPlain_of_isWordChar {c : Char} (h : isWordChar c = true) (small : ¬ Text.IsCapital c) :
    IsPlain c := by
  rw [Text.isCapital_iff] at small
  simp only [isWordChar, Bool.or_eq_true, decide_eq_true_eq, beq_iff_eq] at h
  unfold IsPlain
  tauto

/-- So an identifier is made of plain characters. -/
theorem isPlain_of_mem_identifierChars {name : String} {c : Char}
    (h : c ∈ identifierChars name) : IsPlain c := by
  obtain ⟨mem, word⟩ := List.mem_filter.mp h
  obtain ⟨source, hsource, rfl⟩ := List.mem_map.mp mem
  have lower := (List.mem_filter.mp hsource).1
  rw [Text.lowercase, String.toList_ofList] at lower
  split
  · exact .inr (.inr rfl)
  · rename_i kept
    rw [if_neg kept] at word
    exact isPlain_of_isWordChar word (Text.not_isCapital_of_mem_lowercaseAfter lower)

/-! ### Constants -/

/-- The word of a name: what a constant has of it. -/
def word (name : String) : List Char := trimUnderscores (identifierChars name)

theorem trimUnderscores_cons (text : List Char) :
    trimUnderscores ('_' :: text) = trimUnderscores text := by
  simp [trimUnderscores]

theorem trimUnderscores_concat (text : List Char) :
    trimUnderscores (text ++ ['_']) = trimUnderscores text := by
  unfold trimUnderscores
  rw [List.dropWhile_append]
  cases text.dropWhile (· = '_') with
  | nil => rfl
  | cons c rest => simp

theorem mem_of_mem_trimUnderscores {text : List Char} {c : Char}
    (h : c ∈ trimUnderscores text) : c ∈ text := by
  have back := (List.dropWhile_sublist _).subset (List.mem_reverse.mp h)
  exact (List.dropWhile_sublist _).subset (List.mem_reverse.mp back)

/-- Identifiers have underscores before digits and behind keywords that constants have not. -/
theorem trimUnderscores_memberName (name : String) :
    trimUnderscores (memberName name).toList = word name := by
  have start : trimUnderscores (if needsUnderscore (identifierChars name) then
      '_' :: identifierChars name else identifierChars name) = word name := by
    split
    · exact trimUnderscores_cons _
    · rfl
  unfold memberName
  dsimp only
  generalize (if needsUnderscore (identifierChars name) then
    '_' :: identifierChars name else identifierChars name) = chars at start ⊢
  split
  · rw [String.toList_append, String.toList_ofList]
    exact (trimUnderscores_concat chars).trans start
  · rw [String.toList_ofList]
    exact start

/-- The upper-case form of a character of a word tells which it was. -/
theorem asciiLower_asciiUpper {c : Char} (plain : IsPlain c) :
    Text.asciiLower (Text.asciiUpper c) = c := by
  -- Small letters go to capitals and back; digits and underscores are neither.
  obtain ⟨low, high⟩ | other := plain
  · have : 97 ≤ c.toNat := low
    have : c.toNat ≤ 122 := high
    have upper : (Char.ofNat (c.toNat - 32)).toNat = c.toNat - 32 :=
      Text.toNat_ofNat_of_lt (by omega)
    have capital : Text.IsCapital (Char.ofNat (c.toNat - 32)) := by
      rw [Text.IsCapital, upper]
      omega
    rw [Text.asciiUpper, if_pos ⟨low, high⟩, Text.asciiLower,
      if_pos (Text.isCapital_iff.mp capital), upper, Nat.sub_add_cancel (by omega),
      Char.ofNat_toNat]
  · have bounds : 48 ≤ c.toNat ∧ c.toNat ≤ 57 ∨ c.toNat = 95 := other.imp id (congrArg Char.toNat)
    have small : ¬ ('a' ≤ c ∧ c ≤ 'z') := by
      rintro ⟨low, -⟩
      have : 97 ≤ c.toNat := low
      omega
    have notCapital : ¬ Text.IsCapital c := by
      rw [Text.IsCapital]
      omega
    rw [Text.asciiUpper, if_neg small, Text.asciiLower,
      if_neg (mt Text.isCapital_iff.mpr notCapital)]

/-- Constants of a type are the same exactly when the words of the options are. -/
theorem optionConstant_inj {typePrefix a b : String} :
    optionConstant typePrefix a = optionConstant typePrefix b ↔ word a = word b := by
  have back : ∀ name, ((word name).map Text.asciiUpper).map Text.asciiLower = word name := by
    intro name
    rw [List.map_map]
    conv_rhs => rw [← List.map_id (word name)]
    refine List.map_congr_left fun c hc => ?_
    exact asciiLower_asciiUpper (isPlain_of_mem_identifierChars (mem_of_mem_trimUnderscores hc))
  refine ⟨fun same => ?_, fun same => ?_⟩
  · have upper : (word a).map Text.asciiUpper = (word b).map Text.asciiUpper := by
      simpa [optionConstant, trimUnderscores_memberName, String.ofList_inj] using same
    rw [← back a, upper, back b]
  · simp only [optionConstant, trimUnderscores_memberName, same]

end Names

end TagSchema
