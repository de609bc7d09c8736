import Mathlib
import TagSchema.Text.Case

/-!
# What is upper case in a lower-case form

The lower-case map never leads to a character that is upper case. But not every upper-case character
is in it: mathematical letters, for one, are upper case and have no lower-case form. So a lower-case
form has an upper-case character exactly where the text has one that the map leaves as it is.
-/

namespace TagSchema.Text

/-- Whether a character is upper case although it is its own lower-case form. -/
def isUnmapped (c : Char) : Bool := isUppercase c && decide (lowercaseChar c = [c])

/-! ### Code points as bits

The tables are too long to compare every entry of one with every entry of the other. The bits of a
number are compared at once. -/

/-- The number whose bits are the given points. -/
def bits (points : List Nat) : Nat := points.foldr (fun point mask => 1 <<< point ||| mask) 0

theorem testBit_bits {points : List Nat} {point : Nat} (mem : point ∈ points) :
    (bits points).testBit point = true := by
  induction points with
  | nil => cases mem
  | cons first rest ih =>
    change (1 <<< first ||| bits rest).testBit point = true
    rw [Nat.testBit_or, Bool.or_eq_true]
    obtain rfl | later := List.mem_cons.mp mem
    · exact .inl (by rw [Nat.one_shiftLeft, Nat.testBit_two_pow_self])
    · exact .inr (ih later)

theorem disjoint_of_bits {points points' : List Nat} (h : bits points &&& bits points' = 0)
    {point : Nat} (mem : point ∈ points) : point ∉ points' := by
  intro mem'
  have both : (bits points &&& bits points').testBit point = true := by
    rw [Nat.testBit_and, testBit_bits mem, testBit_bits mem', Bool.and_self]
  rw [h, Nat.zero_testBit] at both
  cases both

/-- The code points of some ranges. -/
def points (ranges : List (Nat × Nat)) : List Nat :=
  ranges.flatMap fun (first, last) => List.range' first (last + 1 - first)

theorem mem_points {ranges : List (Nat × Nat)} {point : Nat} (h : inRanges ranges point = true) :
    point ∈ points ranges := by
  obtain ⟨⟨first, last⟩, mem, inside⟩ := List.any_eq_true.mp h
  refine List.mem_flatMap.mpr ⟨_, mem, List.mem_range'_1.mpr ?_⟩
  rw [decide_eq_true_eq] at inside
  omega

/-- The code points that a run leads to. -/
def CaseRun.targets (run : CaseRun) : List Nat :=
  (List.range ((run.last - run.first) / run.step + 1)).map fun i =>
    (((run.first + i * run.step : Nat) : Int) + run.shift).toNat

theorem CaseRun.mem_targets {run : CaseRun} {point : Nat} (low : run.first ≤ point)
    (high : point ≤ run.last) (onStep : (point - run.first) % run.step = 0) :
    ((point : Int) + run.shift).toNat ∈ run.targets := by
  refine List.mem_map.mpr ⟨(point - run.first) / run.step, List.mem_range.mpr ?_, ?_⟩
  · exact Nat.lt_succ_of_le (Nat.div_le_div_right (by omega))
  · have whole : (point - run.first) / run.step * run.step = point - run.first :=
      Nat.div_mul_cancel (Nat.dvd_of_mod_eq_zero onStep)
    rw [whole, Nat.add_sub_cancel' low]

theorem targets_disjoint :
    bits (lowercaseRuns.flatMap (·.targets)) &&& bits (points uppercaseRanges) = 0 := by
  decide +kernel

/-! ### Characters -/

theorem mem_points_of_isUppercase {c : Char} (upper : isUppercase c = true) :
    c.toNat ∈ points uppercaseRanges := by
  rw [isUppercase] at upper
  split at upper
  · have capital := of_decide_eq_true upper
    refine List.mem_flatMap.mpr ⟨(0x41, 0x5A), by decide +kernel, List.mem_range'_1.mpr ?_⟩
    exact ⟨capital.1, Nat.lt_succ_of_le capital.2⟩
  · exact mem_points upper

/-- No run of the map leads to an upper-case character. -/
theorem not_isUppercase_target {run : CaseRun} (mem : run ∈ lowercaseRuns) {point : Nat}
    (target : point ∈ run.targets) : isUppercase (Char.ofNat point) = false := by
  refine Bool.eq_false_iff.mpr fun upper => ?_
  have inTable := mem_points_of_isUppercase upper
  rw [Char.toNat_ofNat] at inTable
  split at inTable
  · exact disjoint_of_bits targets_disjoint (List.mem_flatMap.mpr ⟨run, mem, target⟩) inTable
  · exact absurd inTable (by decide +kernel)

/-- A lower-case form that is upper case is the character itself. -/
theorem lowercaseChar_eq_self {c lower : Char} (mem : lower ∈ lowercaseChar c)
    (upper : isUppercase lower = true) : lowercaseChar c = [c] := by
  -- Each way to find the lower-case form leads to one that is not upper-case, but for the last,
  -- which leaves the character alone.
  by_cases ascii : c.toNat < 0x80
  · by_cases capital : 'A' ≤ c ∧ c ≤ 'Z'
    · rw [lowercaseChar, if_pos ascii, if_pos capital, List.mem_singleton] at mem
      have low : 65 ≤ c.toNat := capital.1
      have high : c.toNat ≤ 90 := capital.2
      have point : lower.toNat = c.toNat + 32 := by
        rw [mem, Char.toNat_ofNat, if_pos (.inl (by omega))]
      rw [isUppercase, if_pos (by omega), decide_eq_true_eq] at upper
      have capital' : lower.toNat ≤ 90 := upper.2
      omega
    · rw [lowercaseChar, if_pos ascii, if_neg capital]
  rw [lowercaseChar, if_neg ascii] at mem ⊢
  by_cases dotted : c = '\u0130'
  · rw [if_pos dotted] at mem
    have dotless : isUppercase 'i' = false := by decide +kernel
    have dot : isUppercase '\u0307' = false := by decide +kernel
    simp only [List.mem_cons, List.not_mem_nil, or_false] at mem
    obtain rfl | rfl := mem
    · exact absurd upper (Bool.eq_false_iff.mp dotless)
    · exact absurd upper (Bool.eq_false_iff.mp dot)
  rw [if_neg dotted] at mem ⊢
  split at mem
  next run found =>
    have inside := List.find?_some found
    rw [decide_eq_true_eq] at inside
    rw [List.mem_singleton.mp mem] at upper
    have lowered := not_isUppercase_target (List.mem_of_find?_eq_some found)
      (CaseRun.mem_targets inside.1 inside.2.1 inside.2.2)
    exact absurd upper (Bool.eq_false_iff.mp lowered)
  next => rfl

theorem any_isUppercase_lowercaseChar (c : Char) :
    (lowercaseChar c).any isUppercase = isUnmapped c := by
  by_cases unmapped : lowercaseChar c = [c]
  · simp [isUnmapped, unmapped]
  · have none : (lowercaseChar c).any isUppercase = false := by
      refine List.any_eq_false.mpr fun lower mem upper => unmapped (lowercaseChar_eq_self mem upper)
    simp [isUnmapped, unmapped, none]

/-! ### Texts -/

theorem any_isUppercase_lowercaseAfter (before text : List Char) :
    (lowercaseAfter before text).any isUppercase = text.any isUnmapped := by
  induction text generalizing before with
  | nil => rfl
  | cons c rest ih =>
    rw [lowercaseAfter, List.any_append, ih, List.any_cons]
    refine congrArg (· || rest.any isUnmapped) ?_
    split
    next sigma =>
      have mapped : isUnmapped 'Σ' = false := by decide +kernel
      rw [sigma, mapped]
      split <;> decide +kernel
    next => exact any_isUppercase_lowercaseChar c

/-- A lower-case form has an upper-case character exactly if the text has one that is not in the
map. -/
theorem any_isUppercase_lowercase (text : String) :
    (lowercase text).toList.any isUppercase = text.toList.any isUnmapped := by
  rw [lowercase, String.toList_ofList, any_isUppercase_lowercaseAfter]

end TagSchema.Text
