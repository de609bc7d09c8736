import TagSchema.Proofs.Emit.Composition
import TagSchema.Schema.Analysis

/-!
# What a comparison skips

An emitted method is run block by block: what stands in a block is reached only if its first line
lets it in. `reached` runs steps in this way for any choice of the blocks that are entered, and
`EntersIgnoring` are the choices that are left once volatile members are ignored: no block is
entered whose test asks first that they are not.

The test of a volatile member asks for it, unless the member is an array. The test of its length and
those of its elements do not, so a comparison that ignores volatile members still stops where a
volatile array differs.
-/

namespace TagSchema

/-- Whether the field is an array of structs. -/
def FieldKind.isArray : FieldKind → Bool
  | .reflexive .. => true
  | _ => false

namespace Emit

/-! ### Running steps -/

/-- The lines that are reached when blocks are entered by their first lines. The number is that of
the blocks around which are not entered or stand in one that is not. -/
def reached (enters : String → Bool) : Nat → List Step → List String
  | _, [] => []
  | 0, .line text :: steps => text :: reached enters 0 steps
  | 0, .openBlock text :: steps => reached enters (if enters text then 0 else 1) steps
  | skipped + 1, .openBlock _ :: steps => reached enters (skipped + 2) steps
  | skipped, .closeBlock _ :: steps => reached enters (skipped - 1) steps
  | skipped + 2, .reopen _ :: steps => reached enters (skipped + 2) steps
  | _, .reopen text :: steps => reached enters (if enters text then 0 else 1) steps
  | skipped, _ :: steps => reached enters skipped steps

theorem braces_append (head : String) (body : List Step) (tail : String) (rest : List Step) :
    braces head body tail ++ rest =
      .openBlock (head ++ " \x7b") :: (body ++ .closeBlock ("\x7d" ++ tail) :: rest) := by
  simp [braces, block]

/-- Steps that close the blocks they open, and no others. -/
structure Nested (steps : List Step) : Prop where
  /-- What is reached in them does not depend on what follows. -/
  entered (enters : String → Bool) (rest : List Step) :
    reached enters 0 (steps ++ rest) = reached enters 0 steps ++ reached enters 0 rest
  /-- Nothing is reached in them if the block around them is not entered. -/
  skipped (enters : String → Bool) (rest : List Step) (depth : Nat) :
    reached enters (depth + 1) (steps ++ rest) = reached enters (depth + 1) rest

namespace Nested

theorem line (text : String) : Nested [.line text] := ⟨fun _ _ => rfl, fun _ _ _ => rfl⟩

theorem append {first second : List Step} (h : Nested first) (h' : Nested second) :
    Nested (first ++ second) where
  entered enters rest := by
    rw [List.append_assoc, h.entered, h.entered enters second, h'.entered, List.append_assoc]
  skipped enters rest depth := by
    rw [List.append_assoc, h.skipped, h'.skipped]

variable {body : List Step}

/-- A block is run if its first line lets it in. -/
theorem reached_braces_append (h : Nested body) (enters : String → Bool) (head tail : String)
    (rest : List Step) :
    reached enters 0 (Emit.braces head body tail ++ rest) =
      (if enters (head ++ " \x7b") then reached enters 0 body else []) ++
        reached enters 0 rest := by
  rw [braces_append, reached]
  cases enters (head ++ " \x7b") with
  | true => exact h.entered enters _
  | false => exact h.skipped enters _ 0

theorem reached_braces (h : Nested body) (enters : String → Bool) (head tail : String) :
    reached enters 0 (Emit.braces head body tail) =
      if enters (head ++ " \x7b") then reached enters 0 body else [] := by
  have := h.reached_braces_append enters head tail []
  simpa only [List.append_nil, reached] using this

theorem braces (h : Nested body) (head tail : String) :
    Nested (Emit.braces head body tail) where
  entered enters rest := by rw [h.reached_braces_append, h.reached_braces]
  skipped enters rest depth := by
    rw [braces_append, reached, h.skipped enters _ (depth + 1)]
    rfl

end Nested

/-! ### Comparisons -/

/-- The choices of blocks that are left when volatile members are ignored. -/
def EntersIgnoring (enters : String → Bool) : Prop :=
  ∀ test, enters ("if " ++ ("!ignore_volatile && " ++ test) ++ " \x7b") = false

namespace Validators

variable {s : ClassifiedStruct} {field : ClassifiedField}

theorem nested_difference (test element : String) : Nested (difference s field test element) :=
  (((Nested.line _).braces _ _).append ((Nested.line _).append (Nested.line _))).braces _ _

/-- Nothing of a difference is reached unless its test finds it. -/
theorem reached_difference (enters : String → Bool) (test element : String) :
    reached enters 0 (difference s field test element) =
      if enters ("if " ++ test ++ " \x7b") then
        (if enters "if !verbose \x7b" then ["return false;"] else []) ++
          [s!"report_difference({siteArguments s field}, {element}, depth);", "same = false;"]
      else [] := by
  have stops : Nested [.line "return false;"] := Nested.line _
  have reports : Nested [.line s!"report_difference({siteArguments s field}, {element}, depth);",
      .line "same = false;"] := (Nested.line _).append (Nested.line _)
  have head : (s!"if {test}" : String) = "if " ++ test := rfl
  rw [difference, ((stops.braces _ _).append reports).reached_braces,
    stops.reached_braces_append, head]
  rfl

/-- The test of a volatile member that is no array asks first whether volatile members count. -/
theorem reached_memberComparison {enters : String → Bool} (ignoring : EntersIgnoring enters)
    (volatile : field.volatile = true) (single : field.kind.isArray = false) :
    reached enters 0 (memberComparison s field) = [] := by
  have skipped (test : String) :
      reached enters 0 (difference s field ("!ignore_volatile && " ++ test) "None") = [] := by
    rw [reached_difference, ignoring, if_neg Bool.false_ne_true]
  cases kind : field.kind with
  | reflexive => simp [kind, FieldKind.isArray] at single
  | _ => simpa only [memberComparison, volatile, kind, if_true] using skipped _

/-- The comparison of an array ends at arrays of different lengths, volatile or not. -/
theorem reached_memberComparison_of_isArray (array : field.kind.isArray = true) :
    ∃ enters, EntersIgnoring enters ∧
      "return false;" ∈ reached enters 0 (memberComparison s field) := by
  let test := s!"self.{field.identifier}.len() != other.{field.identifier}.len()"
  let enters (head : String) : Bool :=
    head = "if " ++ test ++ " \x7b" ∨ head = "if !verbose \x7b"
  refine ⟨enters, fun guarded => ?_, ?_⟩
  · -- Neither head asks whether volatile members count, which its first letters tell.
    refine decide_eq_false (not_or.mpr ⟨fun same => ?_, fun same => ?_⟩) <;>
      simpa [test, toString] using congrArg String.toList same
  · have lengths : enters ("if " ++ test ++ " \x7b") = true := decide_eq_true (.inl rfl)
    have stops : enters "if !verbose \x7b" = true := decide_eq_true (.inr rfl)
    cases kind : field.kind with
    | reflexive element minimum maximum stockMaximum =>
      simp only [memberComparison, kind]
      rw [(nested_difference _ _).entered, reached_difference, if_pos lengths, if_pos stops]
      simp
    | _ => simp [kind, FieldKind.isArray] at array

/-- The comparison of a volatile member is skipped unless it is an array. -/
theorem memberComparison_skipped_iff (volatile : field.volatile = true) :
    (∀ enters, EntersIgnoring enters → reached enters 0 (memberComparison s field) = []) ↔
      field.kind.isArray = false := by
  refine ⟨fun skipped => ?_, fun single _ ignoring =>
    reached_memberComparison ignoring volatile single⟩
  by_contra array
  obtain ⟨enters, ignoring, stops⟩ :=
    reached_memberComparison_of_isArray (s := s) (eq_true_of_ne_false array)
  rw [skipped enters ignoring] at stops
  cases stops

/-- The method that compares two values at some depth. -/
def comparisonMethod (body : List Step) : List Step :=
  longMethod "pub fn compare_at_depth"
    ["&self", "other: &Self", "precision: bool", "ignore_volatile: bool", "verbose: bool",
      "depth: usize"] "bool" body

/-- The method has a part for every member that is not only in bundles. -/
theorem exists_comparisonMethod (hfield : field ∈ s.members) (stored : field.cacheOnly = false) :
    ∃ before after,
      comparisonMethod (before ++ memberComparison s field ++ after) <:+: comparison s := by
  obtain ⟨earlier, later, split⟩ := List.append_of_mem
    (List.mem_filter.mpr ⟨hfield, by rw [stored]; rfl⟩ :
      field ∈ s.members.filter (!·.cacheOnly))
  refine ⟨.line "let mut same = true;" :: earlier.flatMap (memberComparison s),
    later.flatMap (memberComparison s) ++ [.line "same"], ?_⟩
  have body : (if (s.members.filter (!·.cacheOnly)).isEmpty then [Step.line "true"]
      else .line "let mut same = true;" ::
        (s.members.filter (!·.cacheOnly)).flatMap (memberComparison s) ++ [.line "same"]) =
      (.line "let mut same = true;" :: earlier.flatMap (memberComparison s)) ++
        memberComparison s field ++ (later.flatMap (memberComparison s) ++ [.line "same"]) := by
    rw [split]
    simp
  rw [← body]
  exact ((List.suffix_cons _ _).trans (List.suffix_append _ _)).isInfix

theorem comparison_infix_steps (schema : ClassifiedSchema) (options : Options)
    (hs : s ∈ schema.structs) : comparison s <:+: Target.validators.steps schema options := by
  have inBraces (head : String) (body : List Step) : body <:+: .blank :: braces head body "" :=
    ⟨[.blank, .openBlock (head ++ " \x7b")], [.closeBlock "\x7d"], rfl⟩
  have inBlock : comparison s <:+: structBlock s :=
    ((List.suffix_cons .blank _).trans (List.suffix_append _ _)).isInfix.trans (inBraces _ _)
  obtain ⟨before, after, split⟩ := List.append_of_mem hs
  refine inBlock.trans ⟨header options.runtimeCrate true ++ before.flatMap structBlock,
    after.flatMap structBlock, ?_⟩
  simp [Target.steps, steps, split]

/-- **What a comparison skips.** The method that an emitted file compares the values of a struct
with goes through every member that is not only in bundles. What it has for a volatile member is
skipped whenever volatile members are ignored, unless the member is an array, whose differences can
still end the comparison. -/
theorem comparison_skips_volatile (schema : ClassifiedSchema) (options : Options)
    (hs : s ∈ schema.structs) (hfield : field ∈ s.members) (stored : field.cacheOnly = false)
    (volatile : field.volatile = true) :
    (∃ before after, comparisonMethod (before ++ memberComparison s field ++ after) <:+:
      Target.validators.steps schema options) ∧
    ((∀ enters, EntersIgnoring enters → reached enters 0 (memberComparison s field) = []) ↔
      field.kind.isArray = false) := by
  obtain ⟨before, after, part⟩ := exists_comparisonMethod hfield stored
  exact ⟨⟨before, after, part.trans (comparison_infix_steps schema options hs)⟩,
    memberComparison_skipped_iff volatile⟩

/-- A light with a volatile number and with a volatile array of lights. -/
def lights : List DefinitionGroup := [{
  name := "lights"
  definitions := [
    .struct {
      name := "Light"
      fields := [
        { name := some "heat", memberName := some "heat", typeName := "float", volatile := true },
        { name := some "children", memberName := some "children", typeName := "TagReflexive"
          struct := some "Light", volatile := true }]
      size := 16 }] }]

theorem comparison_skips_volatile_heat :
    ∃ analysis, analyze lights = .ok analysis ∧
      ∃ s ∈ analysis.schema.structs, ∃ field ∈ s.members, field.identifier = "heat" ∧
        field.cacheOnly = false ∧ field.volatile = true ∧
        ∀ enters, EntersIgnoring enters → reached enters 0 (memberComparison s field) = [] := by
  obtain ⟨analysis, accepted, s, hs, field, hfield, name, stored, volatile, single⟩ :
      ∃ analysis, analyze lights = .ok analysis ∧ ∃ s ∈ analysis.schema.structs,
        ∃ field ∈ s.members, field.identifier = "heat" ∧ field.cacheOnly = false ∧
          field.volatile = true ∧ field.kind.isArray = false :=
    ⟨_, rfl, _, .head _, _, .head _, rfl, rfl, rfl, rfl⟩
  obtain ⟨-, skipped⟩ :=
    comparison_skips_volatile analysis.schema {} hs hfield stored volatile
  exact ⟨analysis, accepted, s, hs, field, hfield, name, stored, volatile, skipped.mpr single⟩

/-- The children of a light are volatile, and what the emitted method has for them ends a comparison
that ignores what is. -/
theorem comparison_stops_at_children :
    ∃ analysis, analyze lights = .ok analysis ∧
      ∃ s ∈ analysis.schema.structs, ∃ field ∈ s.members, field.identifier = "children" ∧
        field.cacheOnly = false ∧ field.volatile = true ∧
        (∃ before after, comparisonMethod (before ++ memberComparison s field ++ after) <:+:
          Target.validators.steps analysis.schema {}) ∧
        ∃ enters, EntersIgnoring enters ∧
          "return false;" ∈ reached enters 0 (memberComparison s field) := by
  obtain ⟨analysis, accepted, s, hs, field, hfield, name, stored, volatile, array⟩ :
      ∃ analysis, analyze lights = .ok analysis ∧ ∃ s ∈ analysis.schema.structs,
        ∃ field ∈ s.members, field.identifier = "children" ∧ field.cacheOnly = false ∧
          field.volatile = true ∧ field.kind.isArray = true :=
    ⟨_, rfl, _, .head _, _, .tail _ (.head _), rfl, rfl, rfl, rfl⟩
  obtain ⟨before, after, part⟩ := exists_comparisonMethod hfield stored
  exact ⟨analysis, accepted, s, hs, field, hfield, name, stored, volatile,
    ⟨before, after, part.trans (comparison_infix_steps analysis.schema {} hs)⟩,
    reached_memberComparison_of_isArray array⟩

end Validators

end Emit

end TagSchema
