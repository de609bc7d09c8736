import Mathlib.Data.List.TakeDrop
import Mathlib.Data.List.TakeWhile
import Mathlib.Tactic.IntervalCases
import TagSchema.Json.Printer
import TagSchema.Json.Token

/-!
# Spellings are lexed

The lexer takes a token at a time and leaves what comes behind it. The spelling of a text ends with
its quote, and that of a number where neither a digit nor a mark of a number follows, so both can be
cut off from whatever a document has behind them. `Lexes` is a run of the lexer without a bound; the
bound of the definition is the number of characters, and each token has at least one.
-/

namespace TagSchema.Json

/-! ### Runs of the lexer -/

/-- A text is lexed to some tokens and a rest. No token starts with a blank. -/
inductive Lexes : List Char → List Token → List Char → Prop
  | nil (text : List Char) : Lexes text [] text
  | cons {c : Char} {spelling text rest : List Char} {token : Token} {tokens : List Token}
      (solid : isBlank c = false) (taken : lexToken (c :: (spelling ++ text)) = some (token, text))
      (others : Lexes text tokens rest) : Lexes (c :: (spelling ++ text)) (token :: tokens) rest

/-- Texts that are lexed one after the other are lexed together. -/
theorem Lexes.append {text middle rest : List Char} {tokens more : List Token}
    (first : Lexes text tokens middle) (second : Lexes middle more rest) :
    Lexes text (tokens ++ more) rest := by
  induction first with
  | nil => exact second
  | cons solid taken _ ih => exact .cons solid taken (ih second)

/-- A token that needs nothing to follow. -/
theorem Lexes.single {c : Char} (spelling : List Char) {rest : List Char} {token : Token}
    (solid : isBlank c = false) (taken : lexToken (c :: (spelling ++ rest)) = some (token, rest)) :
    Lexes (c :: (spelling ++ rest)) [token] rest :=
  .cons solid taken (.nil rest)

/-- Every token takes at least one character. -/
theorem Lexes.length_le {text rest : List Char} {tokens : List Token}
    (lexes : Lexes text tokens rest) : tokens.length + rest.length ≤ text.length := by
  induction lexes with
  | nil => simp
  | cons _ _ _ ih =>
    simp only [List.length_cons, List.length_append]
    omega

/-- The limit on tokens is no hindrance, as long as it is no smaller than their number. -/
theorem Lexes.lexUpTo {text rest : List Char} {tokens : List Token} (lexes : Lexes text tokens rest)
    (ends : rest = []) {limit : Nat} (room : tokens.length ≤ limit) :
    lexUpTo limit text = some tokens := by
  induction lexes generalizing limit with
  | nil =>
    rw [ends]
    cases limit <;> rfl
  | @cons c spelling text _ token tokens solid taken _ ih =>
    cases limit with
    | zero => exact absurd room (Nat.not_succ_le_zero _)
    | succ limit =>
      have stays : (c :: (spelling ++ text)).dropWhile isBlank = c :: (spelling ++ text) := by
        rw [List.dropWhile_cons, solid]
        rfl
      have others := ih ends (Nat.le_of_succ_le_succ room)
      rw [Json.lexUpTo, stays]
      simp only [taken, Option.bind_eq_bind, Option.bind_some, others]

/-- A text that is lexed to its end is lexed by the tokenizer, for which the length of the text is
limit enough. -/
theorem Lexes.lex {text : List Char} {tokens : List Token} (lexes : Lexes text tokens []) :
    lex text = some tokens :=
  lexes.lexUpTo rfl lexes.length_le

/-! ### Numbers -/

/-- No number goes on with this rest. -/
def Delimited (rest : List Char) : Prop :=
  ∀ c ∈ rest.head?, c.isDigit = false ∧ c ≠ '.' ∧ c ≠ 'e' ∧ c ≠ 'E'

theorem delimited_nil : Delimited [] := by rintro c ⟨⟩

theorem delimited_cons {c : Char} (h : c.isDigit = false ∧ c ≠ '.' ∧ c ≠ 'e' ∧ c ≠ 'E')
    (rest : List Char) : Delimited (c :: rest) := by
  rintro d ⟨⟩
  exact h

/-- The digits at the head of a text are cut off. -/
theorem spanDigits_eq (text : List Char) :
    spanDigits text = (text.takeWhile Char.isDigit, text.dropWhile Char.isDigit) :=
  List.span_eq_takeWhile_dropWhile Char.isDigit text

/-- No digit follows where a number is delimited. -/
theorem takeWhile_of_delimited {rest : List Char} (delimited : Delimited rest) :
    rest.takeWhile Char.isDigit = [] ∧ rest.dropWhile Char.isDigit = rest := by
  cases rest with
  | nil => exact ⟨rfl, rfl⟩
  | cons c rest =>
    obtain ⟨noDigit, -⟩ := delimited c rfl
    rw [List.takeWhile_cons, List.dropWhile_cons, noDigit]
    exact ⟨rfl, rfl⟩

/-- Without a point there is no fraction. -/
theorem spanFraction_of_ne {text : List Char} (h : ∀ c ∈ text.head?, c ≠ '.') :
    spanFraction text = some ([], text) := by
  rw [spanFraction.eq_def]
  split
  · exact absurd rfl (h '.' rfl)
  · rfl

/-- Without its mark there is no exponent. -/
theorem spanExponent_of_ne {text : List Char} (h : ∀ c ∈ text.head?, c ≠ 'e' ∧ c ≠ 'E') :
    spanExponent text = some (none, text) := by
  rw [spanExponent.eq_def]
  split
  · exact absurd rfl (h 'e' rfl).1
  · exact absurd rfl (h 'E' rfl).2
  · rfl

/-- The sign of an exponent, and what follows it. -/
def spanSign : List Char → Bool × List Char
  | '-' :: rest => (true, rest)
  | '+' :: rest => (false, rest)
  | rest => (false, rest)

/-- A sign is looked for at the head only, so what follows a text that is not empty does not
matter. -/
theorem spanSign_append {text : List Char} (h : text ≠ []) (rest : List Char) :
    spanSign (text ++ rest) = ((spanSign text).1, (spanSign text).2 ++ rest) := by
  cases text with
  | nil => exact absurd rfl h
  | cons c text =>
    -- Only the first character is looked at.
    by_cases minus : c = '-'
    · subst minus
      rfl
    by_cases plus : c = '+'
    · subst plus
      rfl
    have other (behind : List Char) : spanSign (c :: behind) = (false, c :: behind) := by
      rw [spanSign.eq_def]
      split
      · rename_i same
        exact absurd (List.cons.inj same).1 minus
      · rename_i same
        exact absurd (List.cons.inj same).1 plus
      · rfl
    rw [List.cons_append, other, other]
    rfl

/-- Behind the mark of an exponent come a sign, if there is one, and at least one digit. -/
theorem spanExponent_mark {c : Char} (mark : c = 'e' ∨ c = 'E') (text : List Char) :
    spanExponent (c :: text) =
      let (digits, rest) := spanDigits (spanSign text).2
      if digits.isEmpty then none
      else some (some (exponentOf digits (spanSign text).1), rest) := by
  obtain rfl | rfl := mark <;> rfl

/-- The number at the start of a text behind its sign: what `lexNumber` does once the sign is
known. -/
def lexUnsigned (negative : Bool) (text : List Char) : Option (Node × List Char) := do
  let (whole, rest) := spanDigits text
  if whole.isEmpty ∨ (whole.head? = some '0' ∧ 1 < whole.length) then none
  let (fraction, rest) ← spanFraction rest
  let (exponent, rest) ← spanExponent rest
  some (← number negative whole fraction exponent, rest)

theorem lexNumber_minus (text : List Char) : lexNumber ('-' :: text) = lexUnsigned true text := rfl

theorem lexNumber_cons_of_ne {c : Char} (h : c ≠ '-') (text : List Char) :
    lexNumber (c :: text) = lexUnsigned false (c :: text) := by
  rw [lexNumber.eq_def]
  split
  rename_i negative unsigned sign
  split at sign
  · rename_i minus
    exact absurd (List.cons.inj minus).1 h
  · obtain ⟨rfl, rfl⟩ := Prod.mk.inj sign
    rfl

section
variable {text rest : List Char} (delimited : Delimited rest)
include delimited

/-- Digits that end with their text, or at a character that is none, do so whatever follows. -/
theorem spanDigits_append {digits left : List Char} (h : spanDigits text = (digits, left)) :
    spanDigits (text ++ rest) = (digits, left ++ rest) := by
  obtain ⟨none, all⟩ := takeWhile_of_delimited delimited
  rw [spanDigits_eq, Prod.mk.injEq] at h
  obtain ⟨rfl, rfl⟩ := h
  rw [spanDigits_eq, List.takeWhile_append, List.dropWhile_append, none, all]
  -- A text of digits only is joined by the digits of the rest, of which there are none.
  refine Prod.ext ?_ ?_
  · dsimp only
    split
    · rename_i whole
      rw [List.append_nil]
      exact ((List.takeWhile_prefix _).eq_of_length whole).symm
    · rfl
  · dsimp only
    split
    · rename_i empty
      rw [List.isEmpty_iff.mp empty, List.nil_append]
    · rfl

/-- A fraction that was cut off a text is cut off the same text with something behind it. -/
theorem spanFraction_append {digits left : List Char}
    (h : spanFraction text = some (digits, left)) :
    spanFraction (text ++ rest) = some (digits, left ++ rest) := by
  cases text with
  | nil =>
    cases h
    exact spanFraction_of_ne fun c mem => (delimited c mem).2.1
  | cons c text =>
    -- Only a point begins a fraction, and then its digits end with the text.
    by_cases point : c = '.'
    · subst point
      obtain ⟨taken, after⟩ : ∃ taken, spanDigits text = taken := ⟨_, rfl⟩
      have longer := spanDigits_append delimited after
      simp only [spanFraction, List.cons_append, after, longer] at h ⊢
      split at h
      · cases h
      · rename_i some
        cases h
        exact if_neg some
    · have other : ∀ d ∈ (c :: text).head?, d ≠ '.' := by
        rintro d ⟨⟩
        exact point
      rw [spanFraction_of_ne other] at h
      cases h
      exact spanFraction_of_ne other

/-- An exponent that was cut off a text is cut off the same text with something behind it. -/
theorem spanExponent_append {exponent : Option Int} {left : List Char}
    (h : spanExponent text = some (exponent, left)) :
    spanExponent (text ++ rest) = some (exponent, left ++ rest) := by
  cases text with
  | nil =>
    cases h
    exact spanExponent_of_ne fun c mem => (delimited c mem).2.2
  | cons c text =>
    by_cases mark : c = 'e' ∨ c = 'E'
    · rw [List.cons_append, spanExponent_mark mark]
      rw [spanExponent_mark mark] at h
      -- A mark with nothing behind it is no exponent.
      have some : text ≠ [] := by
        rintro rfl
        cases h
      obtain ⟨taken, after⟩ : ∃ taken, spanDigits (spanSign text).2 = taken := ⟨_, rfl⟩
      rw [spanSign_append some, spanDigits_append delimited after]
      simp only [after] at h ⊢
      split at h
      · cases h
      · rename_i digits
        cases h
        exact if_neg digits
    · have other : ∀ d ∈ (c :: text).head?, d ≠ 'e' ∧ d ≠ 'E' := by
        rintro d ⟨⟩
        exact not_or.mp mark
      rw [spanExponent_of_ne other] at h
      cases h
      exact spanExponent_of_ne other

/-- A number that takes a whole text takes as much of it where something else follows. -/
theorem lexUnsigned_append {negative : Bool} {node : Node}
    (h : lexUnsigned negative text = some (node, [])) :
    lexUnsigned negative (text ++ rest) = some (node, rest) := by
  obtain ⟨⟨whole, left⟩, spanned⟩ : ∃ spanned, spanDigits text = spanned := ⟨_, rfl⟩
  have spanned' := spanDigits_append delimited spanned
  simp only [lexUnsigned, spanned, spanned'] at h ⊢
  split at h
  · cases h
  rename_i wellFormed
  rw [if_neg wellFormed]
  obtain ⟨⟨fraction, left⟩, hfraction, h⟩ := Option.bind_eq_some_iff.mp h
  obtain ⟨⟨exponent, left⟩, hexponent, h⟩ := Option.bind_eq_some_iff.mp h
  obtain ⟨value, hvalue, h⟩ := Option.bind_eq_some_iff.mp h
  obtain ⟨rfl, rfl⟩ := Prod.mk.inj (Option.some.inj h)
  simp only [spanFraction_append delimited hfraction, spanExponent_append delimited hexponent,
    Option.bind_eq_bind, Option.bind_some, hvalue, List.nil_append]

/-- What is read as a number is read as that number before any rest that no number goes on with. -/
theorem lexNumber_append {node : Node} (h : lexNumber text = some (node, [])) :
    lexNumber (text ++ rest) = some (node, rest) := by
  cases text with
  | nil => cases h
  | cons c text =>
    by_cases minus : c = '-'
    · subst minus
      rw [lexNumber_minus] at h
      exact lexUnsigned_append delimited h
    · rw [lexNumber_cons_of_ne minus] at h
      rw [List.cons_append, lexNumber_cons_of_ne minus]
      exact lexUnsigned_append delimited h

end

/-- The text of a number gives the number back, and nothing is left of it. -/
def ReadsBack (x : Binary64) : Prop := lexNumber (renderReal x).toList = some (.real x, [])

/-- Whether a number was lexed, and nothing was left. -/
def isAlone (x : Binary64) : Option (Node × List Char) → Bool
  | some (.real y, []) => decide (y = x)
  | _ => false

/-- Nothing is left over of the text, and the number is this one. -/
theorem isAlone_iff {x : Binary64} {lexed : Option (Node × List Char)} :
    isAlone x lexed = true ↔ lexed = some (.real x, []) := by
  constructor
  · intro h
    rw [isAlone.eq_def] at h
    split at h
    · rw [of_decide_eq_true h]
    · cases h
  · rintro rfl
    exact decide_eq_true rfl

instance (x : Binary64) : Decidable (ReadsBack x) := decidable_of_iff _ isAlone_iff

/-! ### Whole numbers -/

/-- A number only grows with its digits. -/
theorem le_ofDigitChars (digits : List Char) (start : Nat) :
    start ≤ Nat.ofDigitChars 10 digits start := by
  induction digits generalizing start with
  | nil => exact Nat.le_refl start
  | cons c rest ih =>
    rw [Nat.ofDigitChars_cons]
    exact Nat.le_trans (by omega) (ih _)

/-- Below the limit of the significand no digit is dropped. -/
theorem appendDigits_eq {digits : List Char} {start : Nat}
    (h : Nat.ofDigitChars 10 digits start < significandLimit) :
    appendDigits start digits = (Nat.ofDigitChars 10 digits start, digits.length) := by
  induction digits generalizing start with
  | nil => rfl
  | cons c rest ih =>
    rw [Nat.ofDigitChars_cons] at h ⊢
    have below := Nat.lt_of_le_of_lt (le_ofDigitChars rest _) h
    rw [appendDigits, Nat.mul_comm start 10]
    simp only [if_pos below, ih h, List.length_cons]

/-- The digits of a number do not begin with zero, unless it is zero. -/
theorem head?_toDigits {n : Nat} (h : 0 < n) : (Nat.toDigits 10 n).head? ≠ some '0' := by
  induction n using Nat.strong_induction_on with
  | _ n ih =>
    rw [Nat.toDigits_eq_if (by decide)]
    split
    · rename_i small
      interval_cases n <;> decide
    · have first := ih (n / 10) (by omega) (by omega)
      cases digits : Nat.toDigits 10 (n / 10) with
      | nil => exact absurd digits Nat.toDigits_ne_nil
      | cons c more => rwa [digits] at first

/-- The digits of a number that fits into the significand stand for a whole number. -/
theorem number_toDigits {n : Nat} (h : n < significandLimit) :
    number false (Nat.toDigits 10 n) [] none = some (.whole n) := by
  have kept : appendDigits 0 (Nat.toDigits 10 n) = (n, (Nat.toDigits 10 n).length) := by
    rw [appendDigits_eq] <;> rw [Nat.ofDigitChars_ten_toDigits]
    exact h
  simp only [number, kept, Nat.sub_self]
  rfl

/-- The digits of a number are a number as the grammar has it: there is one at least, and no zero in
front of others. -/
theorem wellFormed_toDigits (n : Nat) :
    ¬ ((Nat.toDigits 10 n).isEmpty = true ∨
      ((Nat.toDigits 10 n).head? = some '0' ∧ 1 < (Nat.toDigits 10 n).length)) := by
  rintro (empty | ⟨zero, long⟩)
  · exact Nat.toDigits_ne_nil (List.isEmpty_iff.mp empty)
  · rcases Nat.eq_zero_or_pos n with rfl | positive
    · exact absurd long (by decide)
    · exact head?_toDigits positive zero

/-- A whole number that fits into sixty-four bits is read as itself. -/
theorem lexNumber_whole {n : Nat} (h : n < significandLimit) {rest : List Char}
    (delimited : Delimited rest) :
    lexNumber (Nat.toDigits 10 n ++ rest) = some (.whole n, rest) := by
  refine lexNumber_append delimited ?_
  have digits : ∀ c ∈ Nat.toDigits 10 n, c.isDigit = true := fun c mem =>
    Nat.isDigit_of_mem_toDigits (by decide) (by decide) mem
  have spanned : spanDigits (Nat.toDigits 10 n) = (Nat.toDigits 10 n, []) := by
    rw [spanDigits_eq, List.takeWhile_eq_self_iff.mpr digits, List.dropWhile_eq_nil_iff.mpr digits]
  cases text : Nat.toDigits 10 n with
  | nil => exact absurd text Nat.toDigits_ne_nil
  | cons c more =>
    have noSign : c ≠ '-' := by
      rintro rfl
      exact absurd (digits '-' (by rw [text]; exact List.mem_cons_self)) (by decide)
    rw [lexNumber_cons_of_ne noSign, ← text, lexUnsigned]
    simp only [spanned, if_neg (wellFormed_toDigits n), spanFraction, spanExponent,
      Option.bind_eq_bind, Option.bind_some, number_toDigits h]

/-! ### Texts -/

/-- The characters of a text as they are spelled between quotes. -/
def spelling (text : List Char) : List Char := text.flatMap fun c => (quotedChar c).toList

/-- A character that stands for itself is read as itself. -/
theorem lexText_plain {c : Char} (quote : c ≠ '"') (escape : c ≠ '\\') (solid : ¬ c.toNat < 0x20)
    (before rest : List Char) : lexText before (c :: rest) = lexText (c :: before) rest := by
  rw [lexText.eq_def]
  split
  · rename_i same
    exact absurd (List.cons.inj same).1 quote
  · rename_i same
    exact absurd (List.cons.inj same).1 escape
  · rename_i same
    exact absurd (List.cons.inj same).1 escape
  · rename_i same
    obtain ⟨rfl, rfl⟩ := List.cons.inj same
    exact if_neg solid
  · rename_i same
    cases same

/-- Four digits behind the escape are read as the character of that number. -/
theorem lexText_unit {a b c d : Char} {unit : Nat} (h : hexUnit? a b c d = some unit)
    (basic : unit < 0xD800) (before rest : List Char) :
    lexText before ('\\' :: 'u' :: a :: b :: c :: d :: rest) =
      lexText (Char.ofNat unit :: before) rest := by
  rw [lexText]
  simp only [h, basic, true_or, if_true]

/-- A control character is spelled with exactly four hexadecimal digits. -/
theorem quotedChar_control {n : Nat} (h : n < 0x20) :
    ∃ a b c d, "\\u".toList ++
      (String.ofList (List.replicate (4 - (Text.hexDigits n).length) '0')).toList ++
        (Text.hexDigits n).toList = ['\\', 'u', a, b, c, d] ∧ hexUnit? a b c d = some n := by
  interval_cases n <;> exact ⟨_, _, _, _, rfl, rfl⟩

/-- However a character is spelled, it is read back as that character. -/
theorem lexText_quotedChar (c : Char) (before rest : List Char) :
    lexText before ((quotedChar c).toList ++ rest) = lexText (c :: before) rest := by
  rw [quotedChar.eq_def]
  split
  -- Seven characters have an escape of their own, other control characters their code.
  iterate 7 rfl
  split
  · rename_i control
    obtain ⟨x, y, z, w, spelled, unit⟩ := quotedChar_control control
    rw [String.toList_append, String.toList_append, spelled]
    refine (lexText_unit unit (by omega) before rest).trans ?_
    rw [Char.ofNat_toNat]
  · rename_i quote escape _ _ _ _ _ solid
    rw [String.toList_ofList]
    exact lexText_plain quote escape solid before rest

/-- The spelling of a text is read as that text up to its closing quote. -/
theorem lexText_spelling (text before rest : List Char) :
    lexText before (spelling text ++ '"' :: rest) = some (text.reverse ++ before, rest) := by
  induction text generalizing before with
  | nil => rfl
  | cons c text ih =>
    rw [spelling, List.flatMap_cons, List.append_assoc, lexText_quotedChar]
    refine (ih (c :: before)).trans ?_
    rw [List.reverse_cons, List.append_assoc, List.singleton_append]

end TagSchema.Json
