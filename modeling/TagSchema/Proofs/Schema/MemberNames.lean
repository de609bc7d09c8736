import TagSchema.Proofs.Schema.Naming

/-!
# Names of members

Any text can be the name of a member. What becomes of it in code is a word of small letters, digits
and underscores that does not begin with a digit and that the emitted language has no other use for.
These words are just the texts that are their own names in code (`Names.memberName_eq_self_iff`), so
naming twice is naming once. One of the words is no name for a field, though: the lone underscore,
which is all that is left of a name without letters and digits.
-/

namespace TagSchema.Names

/-! ### Identifiers -/

/-- The words that the emitted language uses. -/
def usedWords : List String := [
  "as", "async", "await", "break", "const", "continue", "crate", "dyn", "else", "enum", "extern",
  "false", "fn", "for", "if", "impl", "in", "let", "loop", "match", "mod", "move", "mut", "pub",
  "ref", "return", "self", "Self", "static", "struct", "super", "trait", "true", "type", "unsafe",
  "use", "where", "while"]

/-- The words that the emitted language keeps for later use. -/
def keptWords : List String := [
  "abstract", "become", "box", "do", "final", "gen", "macro", "override", "priv", "try", "typeof",
  "unsized", "virtual", "yield"]

/-- The text is an identifier of small letters. -/
structure IsIdentifier (text : String) : Prop where
  plain : ∀ c ∈ text.toList, IsPlain c
  /-- There is a first character, and it is no digit. -/
  starts : ∃ first rest, text.toList = first :: rest ∧ ¬ ('0' ≤ first ∧ first ≤ '9')
  free : text ∉ usedWords ++ keptWords

/-- The text can name a field. -/
structure IsFieldName (text : String) : Prop extends IsIdentifier text where
  /-- A lone underscore stands for a value that is not named. -/
  named : text ≠ "_"

theorem keywords_subset : ∀ word ∈ keywords, word ∈ usedWords ++ keptWords := by decide +kernel

theorem mem_keywords_of_mem : ∀ word ∈ usedWords ++ keptWords, word = "Self" ∨ word ∈ keywords := by
  decide +kernel

/-- No keyword is another one with an underscore behind it. -/
theorem append_underscore_notMem : ∀ word ∈ keywords, word ++ "_" ∉ keywords := by decide +kernel

/-- A text of plain characters that is no keyword is free. -/
theorem notMem_of_isPlain {text : String} (plain : ∀ c ∈ text.toList, IsPlain c)
    (other : text ∉ keywords) : text ∉ usedWords ++ keptWords := by
  intro reserved
  obtain rfl | keyword := mem_keywords_of_mem text reserved
  · exact absurd (plain 'S' (by decide)) (by unfold IsPlain; decide)
  · exact other keyword

/-! ### Names in code -/

/-- The name in code before it is made to differ from keywords. -/
def started (name : String) : String :=
  String.ofList (if needsUnderscore (identifierChars name) then '_' :: identifierChars name
    else identifierChars name)

theorem memberName_eq (name : String) :
    memberName name = if started name ∈ keywords then started name ++ "_" else started name := rfl

theorem isPlain_started {name : String} {c : Char} (h : c ∈ (started name).toList) : IsPlain c := by
  rw [started, String.toList_ofList] at h
  split at h
  · obtain rfl | h := List.mem_cons.mp h
    · exact .inr (.inr rfl)
    · exact isPlain_of_mem_identifierChars h
  · exact isPlain_of_mem_identifierChars h

theorem starts_started (name : String) :
    ∃ first rest, (started name).toList = first :: rest ∧ ¬ ('0' ≤ first ∧ first ≤ '9') := by
  rw [started, String.toList_ofList]
  split
  · exact ⟨'_', _, rfl, by decide⟩
  · rename_i ready
    cases chars : identifierChars name with
    | nil => simp [chars, needsUnderscore] at ready
    | cons first rest => exact ⟨first, rest, rfl, by simpa [chars, needsUnderscore] using ready⟩

theorem isIdentifier_memberName (name : String) : IsIdentifier (memberName name) := by
  obtain ⟨first, rest, start, letter⟩ := starts_started name
  rw [memberName_eq]
  split
  · -- A keyword gets an underscore, and no keyword ends in one.
    rename_i keyword
    have plain : ∀ c ∈ (started name ++ "_").toList, IsPlain c := by
      intro c h
      rw [String.toList_append] at h
      obtain h | h := List.mem_append.mp h
      · exact isPlain_started h
      · exact .inr (.inr (List.mem_singleton.mp h))
    exact {
      plain
      starts := ⟨first, rest ++ ['_'], by rw [String.toList_append, start]; rfl, letter⟩
      free := notMem_of_isPlain plain (append_underscore_notMem _ keyword) }
  · rename_i other
    exact {
      plain := fun c h => isPlain_started h
      starts := ⟨first, rest, start, letter⟩
      free := notMem_of_isPlain (fun c h => isPlain_started h) other }

/-! ### Naming twice -/

theorem IsPlain.lowercaseChar {c : Char} (plain : IsPlain c) : Text.lowercaseChar c = [c] := by
  have bounds : c.toNat < 0x80 ∧ ¬ Text.IsCapital c := by
    rw [Text.IsCapital]
    obtain ⟨low, high⟩ | ⟨low, high⟩ | rfl := plain
    · have : 97 ≤ c.toNat := low
      have : c.toNat ≤ 122 := high
      omega
    · have : c.toNat ≤ 57 := high
      omega
    · decide
  rw [Text.lowercaseChar, if_pos bounds.1, if_neg (mt Text.isCapital_iff.mpr bounds.2)]

theorem lowercaseAfter_of_isPlain {before text : List Char} (plain : ∀ c ∈ text, IsPlain c) :
    Text.lowercaseAfter before text = text := by
  induction text generalizing before with
  | nil => rfl
  | cons c rest ih =>
    obtain ⟨here, others⟩ := List.forall_mem_cons.mp plain
    have small : c ≠ 'Σ' := by
      rintro rfl
      exact absurd here (by unfold IsPlain; decide)
    rw [Text.lowercaseAfter, if_neg small, here.lowercaseChar, ih others]
    rfl

/-- All characters of a plain text are kept. -/
theorem identifierChars_of_isPlain {text : String} (plain : ∀ c ∈ text.toList, IsPlain c) :
    identifierChars text = text.toList := by
  -- No step of the sanitiser changes a plain character: none is silent, none is replaced, and all
  -- are kept.
  have loud : ∀ c, IsPlain c → isSilent c = false := by
    rintro c h
    refine Bool.eq_false_iff.mpr fun silent => ?_
    simp only [isSilent, Bool.or_eq_true, beq_iff_eq, or_assoc] at silent
    obtain rfl | rfl | rfl := silent <;> exact absurd h (by unfold IsPlain; decide)
  have kept : ∀ c, IsPlain c → (if c = ' ' ∨ c = '-' then '_' else c) = c := by
    intro c h
    refine if_neg ?_
    rintro (rfl | rfl) <;> exact absurd h (by unfold IsPlain; decide)
  have word : ∀ c, IsPlain c → isWordChar c = true := by
    intro c h
    simp only [isWordChar, Bool.or_eq_true, decide_eq_true_eq, beq_iff_eq]
    obtain letter | digit | underscore := h
    · exact .inl (.inl (.inl letter))
    · exact .inl (.inr digit)
    · exact .inr underscore
  have silent : text.toList.filter (!isSilent ·) = text.toList :=
    List.filter_eq_self.mpr fun c h => by rw [loud c (plain c h)]; rfl
  rw [identifierChars, Text.lowercase, String.toList_ofList, lowercaseAfter_of_isPlain plain,
    silent, List.map_congr_left fun c h => kept c (plain c h), List.map_id']
  exact List.filter_eq_self.mpr fun c h => word c (plain c h)

/-- The names in code are the texts that are their own names in code. -/
theorem memberName_eq_self_iff {text : String} : memberName text = text ↔ IsIdentifier text := by
  refine ⟨fun same => same ▸ isIdentifier_memberName text, fun identifier => ?_⟩
  obtain ⟨first, rest, start, letter⟩ := identifier.starts
  have ready : needsUnderscore text.toList = false := by
    rw [start]
    exact decide_eq_false letter
  have same : started text = text := by
    rw [started, identifierChars_of_isPlain identifier.plain, ready]
    exact String.ofList_toList
  rw [memberName_eq, same, if_neg fun keyword => identifier.free (keywords_subset text keyword)]

/-! ### The lone underscore -/

/-- A name becomes a lone underscore if one is all that is left of it, or nothing. -/
theorem memberName_eq_underscore_iff {name : String} :
    memberName name = "_" ↔ identifierChars name = [] ∨ identifierChars name = ['_'] := by
  -- Keywords do not matter: none of them is an underscore, and none becomes one by an underscore at
  -- its end.
  have alone : started name = "_" ↔ identifierChars name = [] ∨ identifierChars name = ['_'] := by
    rw [← String.toList_inj, started, String.toList_ofList]
    cases chars : identifierChars name with
    | nil => decide
    | cons first rest =>
      have whole : "_".toList = ['_'] := rfl
      rw [whole]
      split
      · rename_i digit
        have other : first ≠ '_' := by
          rintro rfl
          exact Bool.false_ne_true digit
        simp [other]
      · simp
  rw [memberName_eq, ← alone]
  split
  · -- An underscore behind a keyword would be alone only if the keyword were empty.
    rename_i keyword
    refine iff_of_false (fun same => ?_) fun same => ?_
    · have empty : started name = "" := by simpa using congrArg (fun s => s.toList.dropLast) same
      rw [empty] at keyword
      exact absurd keyword (by decide +kernel)
    · rw [same] at keyword
      exact absurd keyword (by decide +kernel)
  · rfl

/-- **Names of members.** Whatever the name of a member is, it becomes an identifier, which is its
own name in code. It can name a field unless nothing is left of the name, or nothing but an
underscore. -/
theorem memberName_isFieldName (name : String) :
    IsIdentifier (memberName name) ∧ memberName (memberName name) = memberName name ∧
      (IsFieldName (memberName name) ↔
        ¬ (identifierChars name = [] ∨ identifierChars name = ['_'])) := by
  have identifier := isIdentifier_memberName name
  refine ⟨identifier, memberName_eq_self_iff.mpr identifier, ?_⟩
  rw [← memberName_eq_underscore_iff]
  exact ⟨fun field => field.named, fun named => ⟨identifier, named⟩⟩

/-- Nothing is left of a percent sign, and what stands for it in code can name no field. -/
theorem memberName_percent : memberName "%" = "_" ∧ ¬ IsFieldName (memberName "%") := by
  have alone : memberName "%" = "_" := by decide +kernel
  exact ⟨alone, fun field => field.named alone⟩

end TagSchema.Names
