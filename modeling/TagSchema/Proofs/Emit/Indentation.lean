import Mathlib.Data.List.Basic
import TagSchema.Emit.Writer

/-!
# Indentation

A writer looks at what it has written in two places only: a blank line is left out after another
one, and a line is indented as deeply as the blocks that are open. So steps write the same lines
wherever they stand, if they close what they open and begin with text. `Balanced` says the first,
and `levelAfter` computes it along everything that steps are put together with; `IsBlock` says both,
and `Writer.Ready.run_block` is what follows.
-/

namespace TagSchema.Emit

/-! ### The level of indentation -/

/-- The level of indentation after a step. -/
@[simp] def Step.level (level : Nat) : Step → Nat
  | .line _ | .doc _ | .blank => level
  | .openBlock _ => level + 1
  | .closeBlock _ => level - 1
  | .reopen _ => level - 1 + 1

namespace Writer

@[simp] theorem addLine_indent (w : Writer) (text : String) :
    (w.addLine text).indent = w.indent := by
  rw [addLine]
  split <;> rfl

/-- A step changes the level of the writer by what the step alone says. -/
theorem step_indent (w : Writer) (s : Step) : (w.step s).indent = s.level w.indent := by
  cases s with
  | line text => exact w.addLine_indent text
  | openBlock text => exact congrArg (· + 1) (w.addLine_indent text)
  | closeBlock text => exact addLine_indent ..
  | reopen text => exact congrArg (· + 1) (addLine_indent ..)
  | blank =>
    rw [step]
    split <;> rfl
  | doc text =>
    cases text with
    | none => rfl
    | some text =>
      change ((Text.lines text).foldl _ w).indent = w.indent
      induction Text.lines text generalizing w with
      | nil => rfl
      | cons line lines ih => exact (ih _).trans (w.addLine_indent _)

/-- Steps are run one after the other. -/
theorem run_append (w : Writer) (steps steps' : List Step) :
    w.run (steps ++ steps') = (w.run steps).run steps' := List.foldl_append

end Writer

/-- The level of indentation after some steps. -/
def levelAfter (steps : List Step) (level : Nat) : Nat := steps.foldl Step.level level

/-- The level that is computed from the steps is the one that the writer comes to. -/
theorem Writer.run_indent (w : Writer) (steps : List Step) :
    (w.run steps).indent = levelAfter steps w.indent := by
  induction steps generalizing w with
  | nil => rfl
  | cons s steps ih => exact (ih _).trans (congrArg (levelAfter steps) (w.step_indent s))

/-- Steps that close exactly the blocks that they open. -/
def Balanced (steps : List Step) : Prop := ∀ level, levelAfter steps level = level

section

variable (steps steps' : List Step) (level : Nat)

@[simp] theorem levelAfter_nil : levelAfter [] level = level := rfl

-- Not proved by `rfl`: below `levelAfter_flatMap` it has to rewrite a side condition.
@[simp] theorem levelAfter_cons (s : Step) :
    levelAfter (s :: steps) level = levelAfter steps (s.level level) := by
  rw [levelAfter, List.foldl_cons, levelAfter]

@[simp] theorem levelAfter_append :
    levelAfter (steps ++ steps') level = levelAfter steps' (levelAfter steps level) :=
  List.foldl_append

/-- Runs of steps that close what they open do so together. -/
@[simp] theorem levelAfter_flatMap {α : Type} {items : List α} {f : α → List Step}
    (h : ∀ a ∈ items, ∀ level, levelAfter (f a) level = level) :
    levelAfter (items.flatMap f) level = level := by
  induction items with
  | nil => rfl
  | cons a items ih =>
    rw [List.flatMap_cons, levelAfter_append, h a List.mem_cons_self,
      ih fun b hb => h b (List.mem_cons_of_mem _ hb)]

@[simp] theorem levelAfter_lines {α : Type} (items : List α) (text : α → String) :
    levelAfter (items.map fun a => .line (text a)) level = level := by
  induction items with
  | nil => rfl
  | cons a items ih => exact ih

@[simp] theorem levelAfter_ite (p : Prop) [Decidable p] :
    levelAfter (if p then steps else steps') level =
      if p then levelAfter steps level else levelAfter steps' level :=
  apply_ite (levelAfter · level) ..

@[simp] theorem levelAfter_block (first last : String) :
    levelAfter (block first steps last) level = levelAfter steps (level + 1) - 1 :=
  levelAfter_append ..

@[simp] theorem levelAfter_braces (head tail : String) :
    levelAfter (braces head steps tail) level = levelAfter steps (level + 1) - 1 :=
  levelAfter_append ..

@[simp] theorem levelAfter_method (signature : String) :
    levelAfter (method signature steps) level = levelAfter steps (level + 1) - 1 :=
  levelAfter_append ..

@[simp] theorem levelAfter_longMethod (head result : String) (parameters : List String) :
    levelAfter (longMethod head parameters result steps) level =
      levelAfter steps (level + 1) - 1 := by
  simp [longMethod, Step.level]

@[simp] theorem levelAfter_longCall (head tail : String) (arguments : List String) :
    levelAfter (longCall head arguments tail) level = level := by
  simp [longCall]

end

/-! ### Lines under others -/

namespace Writer

/-- The writer with other lines before its own. -/
def onTop (w : Writer) (base : List String) : Writer := { w with lines := w.lines ++ base }

/-- Whether the first line of the writer is a text. -/
def Begun (w : Writer) : Prop := ∃ later first, w.lines = later ++ [first] ∧ first ≠ ""

/-- The lines on top come first in the text. -/
theorem text_onTop (w : Writer) (base : List String) :
    (w.onTop base).text = String.join (base.reverse.map (· ++ "\n")) ++ w.text := by
  rw [text, onTop, List.reverse_append, List.map_append, String.join_append, text]

/-- A line that is added is one line, however it is indented, and empty only if its text is. -/
theorem addLine_lines (w : Writer) (text : String) :
    ∃ line, (w.addLine text).lines = line :: w.lines ∧ (text ≠ "" → line ≠ "") := by
  rw [addLine]
  split
  next empty => exact ⟨_, rfl, fun hne => absurd (String.isEmpty_iff.mp empty) hne⟩
  next => exact ⟨_, rfl, fun hne => by simp [hne]⟩

/-- A line is added below, so what stands on top does not matter. -/
theorem addLine_onTop (w : Writer) (base : List String) (text : String) :
    (w.onTop base).addLine text = (w.addLine text).onTop base := by
  rw [addLine, addLine]
  split <;> rfl

/-- The first line that is not empty begins the writer. -/
theorem begun_addLine {w : Writer} {text : String} (hw : w.lines = []) (hne : text ≠ "") :
    (w.addLine text).Begun := by
  obtain ⟨line, added, text⟩ := w.addLine_lines text
  exact ⟨[], line, by rw [added, hw]; rfl, text hne⟩

/-- A writer that has begun stays so. -/
theorem Begun.addLine {w : Writer} (h : w.Begun) (text : String) : (w.addLine text).Begun := by
  obtain ⟨later, first, lines, hne⟩ := h
  obtain ⟨line, added, -⟩ := w.addLine_lines text
  exact ⟨line :: later, first, by rw [added, lines]; rfl, hne⟩

/-- A blank line below the first text is one whatever stands above. -/
theorem Begun.endsBlank_onTop {w : Writer} (h : w.Begun) (base : List String) :
    (w.onTop base).endsBlank = w.endsBlank := by
  obtain ⟨later, first, lines, hne⟩ := h
  have text : first.isEmpty = false := by simp [hne]
  cases later with
  | nil => simp [endsBlank, onTop, lines, text]
  | cons last later =>
    have further : (later ++ first :: base).isEmpty = (later ++ [first]).isEmpty := by
      rw [Bool.eq_iff_iff]
      simp
    simp [endsBlank, onTop, lines, further]

/-- The lines of a comment are added below, whatever stands on top. -/
theorem Begun.comment_onTop {w : Writer} (h : w.Begun) (base comment : List String) :
    comment.foldl (fun w line => w.addLine ("/// " ++ Text.trim line)) (w.onTop base) =
        (comment.foldl (fun w line => w.addLine ("/// " ++ Text.trim line)) w).onTop base ∧
      (comment.foldl (fun w line => w.addLine ("/// " ++ Text.trim line)) w).Begun := by
  induction comment generalizing w with
  | nil => exact ⟨rfl, h⟩
  | cons line comment ih =>
    rw [List.foldl_cons, List.foldl_cons, addLine_onTop]
    exact ih (h.addLine _)

/-- A comment that opens a page is written there as it is anywhere, unless it has no text. -/
theorem doc_onTop {w : Writer} (hw : w.lines = []) (base : List String) (text : Option String) :
    (w.onTop base).step (.doc text) = (w.step (.doc text)).onTop base ∧
      (w.step (.doc text) = w ∨ (w.step (.doc text)).Begun) := by
  cases text with
  | none => exact ⟨rfl, .inl rfl⟩
  | some text =>
    simp only [step]
    cases Text.lines text with
    | nil => exact ⟨rfl, .inl rfl⟩
    | cons line comment =>
      have begun : (w.addLine ("/// " ++ Text.trim line)).Begun := begun_addLine hw (by simp)
      obtain ⟨moved, begun⟩ := begun.comment_onTop base comment
      rw [List.foldl_cons, List.foldl_cons, addLine_onTop]
      exact ⟨moved, .inr begun⟩

/-- A step of a writer that has begun does not look past its own lines. -/
theorem Begun.step_onTop {w : Writer} (h : w.Begun) (base : List String) (s : Step) :
    (w.onTop base).step s = (w.step s).onTop base ∧ (w.step s).Begun := by
  cases s with
  | line text => exact ⟨addLine_onTop .., h.addLine text⟩
  | openBlock text => exact ⟨by simp only [step, addLine_onTop]; rfl, h.addLine text⟩
  | closeBlock text =>
    exact ⟨addLine_onTop { w with indent := w.indent - 1 } base text,
      Begun.addLine (w := { w with indent := w.indent - 1 }) h text⟩
  | reopen text =>
    have moved := addLine_onTop { w with indent := w.indent - 1 } base text
    exact ⟨congrArg (fun v : Writer => { v with indent := v.indent + 1 }) moved,
      Begun.addLine (w := { w with indent := w.indent - 1 }) h text⟩
  | doc text =>
    cases text with
    | none => exact ⟨rfl, h⟩
    | some text => exact h.comment_onTop base (Text.lines text)
  | blank =>
    -- A blank line depends on the line before it, which is one of the writer's own.
    obtain ⟨later, first, lines, hne⟩ := id h
    have empty : (w.onTop base).lines.isEmpty = w.lines.isEmpty := by
      rw [Bool.eq_iff_iff]
      simp [onTop, lines]
    simp only [step, h.endsBlank_onTop, empty]
    split
    · exact ⟨rfl, h⟩
    · exact ⟨rfl, "" :: later, first, by rw [lines]; rfl, hne⟩

/-- Nor does a run of steps. -/
theorem Begun.run_onTop {w : Writer} (h : w.Begun) (base : List String) (steps : List Step) :
    (w.onTop base).run steps = (w.run steps).onTop base := by
  induction steps generalizing w with
  | nil => rfl
  | cons s steps ih =>
    obtain ⟨moved, begun⟩ := h.step_onTop base s
    exact (congrArg (run · steps) moved).trans (ih begun)

end Writer

/-! ### Blocks of text -/

/-- Whether the first line that some steps write is a text of theirs. -/
def Opens : List Step → Prop
  | .line text :: _ | .openBlock text :: _ => text ≠ ""
  | .doc _ :: steps | .blank :: steps => Opens steps
  | _ => False

/-- Steps set off by a blank line that open with text, close what they open, and end with a closing
brace. -/
inductive IsBlock : List Step → Prop where
  | intro {body : List Step} (opens : Opens body) (balanced : Balanced body)
      (closes : body.getLast? = some (.closeBlock "\x7d")) : IsBlock (.blank :: body)

namespace Writer

/-- Below a blank line, steps that open with text write what they write on a page of their own. -/
theorem run_onTop_of_opens {steps : List Step} (h : Opens steps) {base : List String}
    (hne : base ≠ []) (n : Nat) :
    (onTop { indent := n } ("" :: base)).run steps =
      (run { indent := n } steps).onTop ("" :: base) := by
  induction steps with
  | nil => exact h.elim
  | cons s steps ih =>
    -- Until the first text is written the last line on top is blank, so that blank lines are left
    -- out on both sides.
    cases s with
    | line text =>
      have begun : (step { indent := n } (.line text)).Begun := begun_addLine rfl h
      change run (step (onTop _ _) _) steps = (run (step _ _) steps).onTop _
      rw [← begun.run_onTop, step, addLine_onTop]
      rfl
    | openBlock text =>
      have begun : (step { indent := n } (.openBlock text)).Begun := begun_addLine rfl h
      change run (step (onTop _ _) _) steps = (run (step _ _) steps).onTop _
      rw [← begun.run_onTop, step, addLine_onTop]
      rfl
    | closeBlock text => exact h.elim
    | reopen text => exact h.elim
    | blank =>
      have stays : (onTop { indent := n } ("" :: base)).step .blank =
          onTop { indent := n } ("" :: base) := by
        simp [step, onTop, endsBlank, hne]
      exact (congrArg (run · steps) stays).trans (ih h)
    | doc text =>
      obtain ⟨moved, stays | begun⟩ := doc_onTop (w := { indent := n }) rfl ("" :: base) text
      · change run (step (onTop _ _) _) steps = (run (step _ _) steps).onTop _
        rw [moved, stays]
        exact ih h
      · change run (step (onTop _ _) _) steps = (run (step _ _) steps).onTop _
        rw [moved]
        exact begun.run_onTop _ steps

/-- Whether a blank line would be written next, and a line after it not indented. -/
structure Ready (w : Writer) : Prop where
  level : w.indent = 0
  nonempty : w.lines ≠ []
  text : w.endsBlank = false

/-- A blank line behind a finished block is written, and what follows stands under it as in an empty
writer. -/
theorem Ready.step_blank {w : Writer} (h : w.Ready) : w.step .blank = onTop {} ("" :: w.lines) := by
  obtain ⟨level, nonempty, text⟩ := h
  simp only [step, text, List.isEmpty_eq_false_iff.mpr nonempty, onTop, ← level]
  rfl

/-- Below a line at level zero that does not end in a line break of its own, a blank line is
written. -/
theorem ready_addLine {w : Writer} {text : String} {c : Char} (level : w.indent = 0)
    (ends : text.toList.getLast? = some c) (hc : c ≠ '\n') : (w.addLine text).Ready := by
  have hne : text ≠ "" := by
    rintro rfl
    cases ends
  have lines : (w.addLine text).lines = text :: w.lines := by
    simp [addLine, hne, level]
  refine ⟨(w.addLine_indent text).trans level, by simp [lines], ?_⟩
  simp [endsBlank, lines, hne, ends, hc]

/-- After a block has closed on the lowest level, the next one can begin. -/
theorem ready_of_closes {w : Writer} {steps : List Step}
    (closes : steps.getLast? = some (.closeBlock "\x7d")) (level : (w.run steps).indent = 0) :
    (w.run steps).Ready := by
  obtain ⟨front, rfl⟩ := List.getLast?_eq_some_iff.mp closes
  rw [run_append] at level ⊢
  have closed : (w.run front).indent - 1 = 0 :=
    (step_indent (w.run front) (.closeBlock "\x7d")).symm.trans level
  have last : "\x7d".toList.getLast? = some '\x7d' := by decide
  exact ready_addLine (w := { w.run front with indent := _ }) closed last (by decide)

/-- A block is written as on a page of its own, after a blank line, and leaves the writer ready for
the next one. -/
theorem Ready.run_block {w : Writer} (h : w.Ready) {steps : List Step} (block : IsBlock steps) :
    (w.run steps).Ready ∧ (w.run steps).text = w.text ++ ("\n" ++ render steps) := by
  cases block with
  | @intro body opens balanced closes =>
    have moved : w.run (.blank :: body) = (run {} body).onTop ("" :: w.lines) := by
      change (w.step .blank).run body = _
      rw [h.step_blank, run_onTop_of_opens opens h.nonempty]
    constructor
    · have level : ((w.step .blank).run body).indent = 0 := by
        rw [run_indent, balanced, h.step_blank]
        rfl
      exact ready_of_closes (w := w.step .blank) closes level
    · rw [moved, text_onTop, List.reverse_cons, List.map_append, String.join_append,
        String.append_assoc]
      rfl

/-- Blocks are written one after the other, each as if it stood alone behind a blank line. -/
theorem Ready.run_blocks {w : Writer} (h : w.Ready) {blocks : List (List Step)}
    (all : ∀ steps ∈ blocks, IsBlock steps) :
    (w.run blocks.flatten).Ready ∧
      (w.run blocks.flatten).text =
        w.text ++ String.join (blocks.map fun steps => "\n" ++ render steps) := by
  induction blocks generalizing w with
  | nil => exact ⟨h, (String.append_empty).symm⟩
  | cons steps blocks ih =>
    obtain ⟨ready, first⟩ := h.run_block (all steps List.mem_cons_self)
    obtain ⟨ready', rest⟩ := ih ready fun b hb => all b (List.mem_cons_of_mem _ hb)
    rw [List.flatten_cons, run_append]
    refine ⟨ready', rest.trans ?_⟩
    rw [first, List.map_cons, String.join_cons, String.append_assoc]

/-- The header leaves the writer ready for the first block. -/
theorem ready_header (runtimeCrate : String) (usesDefinitions : Bool) :
    (run {} (header runtimeCrate usesDefinitions)).Ready := by
  have usesRuntime : ("use " ++ runtimeCrate ++ "::prelude::*;").toList.getLast? = some ';' := by
    rw [String.toList_append, List.getLast?_append]
    rfl
  have ready : (run {} (header runtimeCrate false)).Ready :=
    ready_addLine rfl usesRuntime (by decide)
  cases usesDefinitions with
  | true =>
    have last : "use super::definitions::*;".toList.getLast? = some ';' := by decide
    exact ready_addLine ready.level last (by decide)
  | false => exact ready

end Writer

end TagSchema.Emit
