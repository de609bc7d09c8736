import TagSchema.Text.CaseTable

/-!
# Letter case

Whether a character is upper case, and the lower-case form of a text. All of Unicode counts, and a
capital sigma at the end of a word takes its final form.
-/

namespace TagSchema.Text

/-- Whether a code point lies in one of the ranges. -/
def inRanges (ranges : List (Nat × Nat)) (point : Nat) : Bool :=
  ranges.any fun (first, last) => decide (first ≤ point ∧ point ≤ last)

/-- Whether a character has the property `Uppercase`. -/
def isUppercase (c : Char) : Bool :=
  if c.toNat < 0x80 then decide ('A' ≤ c ∧ c ≤ 'Z') else inRanges uppercaseRanges c.toNat

/-- Whether a character is a cased letter. -/
def isCased (c : Char) : Bool := inRanges casedRanges c.toNat

/-- Whether a character is passed over in the search for the ends of a word. -/
def isCaseIgnorable (c : Char) : Bool := inRanges caseIgnorableRanges c.toNat

/-- The lower-case form of one character. Only the dotted capital I becomes two. -/
def lowercaseChar (c : Char) : List Char :=
  if c.toNat < 0x80 then [if 'A' ≤ c ∧ c ≤ 'Z' then Char.ofNat (c.toNat + 32) else c]
  else if c = '\u0130' then ['i', '\u0307']
  else
    match lowercaseRuns.find? fun run =>
        decide (run.first ≤ c.toNat ∧ c.toNat ≤ run.last ∧
          (c.toNat - run.first) % run.step = 0) with
    | some run => [Char.ofNat (c.toNat + run.shift).toNat]
    | none => [c]

/-- Whether the nearest character that is not ignorable is a cased letter. -/
def meetsCased (text : List Char) : Bool :=
  match text.dropWhile isCaseIgnorable with
  | c :: _ => isCased c
  | [] => false

/-- The lower-case form of the rest of a text; `before` holds the characters already passed, the
last first. -/
def lowercaseAfter (before : List Char) : List Char → List Char
  | [] => []
  | c :: rest =>
    let lowered :=
      if c = 'Σ' then [if meetsCased before && !meetsCased rest then 'ς' else 'σ']
      else lowercaseChar c
    lowered ++ lowercaseAfter (c :: before) rest

/-- The lower-case form of a text. -/
def lowercase (text : String) : String := String.ofList (lowercaseAfter [] text.toList)

/-- The lower-case form of an ASCII letter; every other character is its own. -/
def asciiLower (c : Char) : Char := if 'A' ≤ c ∧ c ≤ 'Z' then Char.ofNat (c.toNat + 32) else c

/-- The upper-case form of an ASCII letter; every other character is its own. -/
def asciiUpper (c : Char) : Char := if 'a' ≤ c ∧ c ≤ 'z' then Char.ofNat (c.toNat - 32) else c

/-- Whether two texts differ at most in the case of their ASCII letters. -/
def equalIgnoringAsciiCase (a b : String) : Bool :=
  decide (a.toList.map asciiLower = b.toList.map asciiLower)

end TagSchema.Text
