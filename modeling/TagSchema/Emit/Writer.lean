import TagSchema.Text.Lines

/-!
# Source text

Emitted code is described by steps: lines, blocks that are indented, comments and blank lines. A
writer turns the steps into lines of text, so what a record emits is a list that can be looked at by
itself.
-/

namespace TagSchema.Emit

/-- One step of writing. -/
inductive Step where
  | line (text : String)
  /-- A line, after which the text is indented by one more level. -/
  | openBlock (text : String)
  /-- A line that is one level less indented, as is what follows. -/
  | closeBlock (text : String)
  /-- A line that closes a block and opens another. -/
  | reopen (text : String)
  /-- A comment, one line for each line of the text, if there is a text. -/
  | doc (text : Option String)
  /-- A blank line, unless there is one already or nothing has been written. -/
  | blank

/-- The lines written so far, the last one first, and the level of indentation. -/
structure Writer where
  lines : List String := []
  indent : Nat := 0

namespace Writer

/-- One level of indentation. -/
def indentation : String := "    "

/-- A line at the current level. Empty lines are not indented. -/
def addLine (w : Writer) (text : String) : Writer :=
  if text.isEmpty then { w with lines := "" :: w.lines }
  else { w with lines := (String.join (List.replicate w.indent indentation) ++ text) :: w.lines }

/-- Whether the text ends in a blank line. -/
def endsBlank (w : Writer) : Bool :=
  match w.lines with
  | [] => false
  | last :: rest => if last.isEmpty then !rest.isEmpty else last.toList.getLast? == some '\n'

/-- One step. -/
def step (w : Writer) : Step → Writer
  | .line text => w.addLine text
  | .openBlock text => let w := w.addLine text; { w with indent := w.indent + 1 }
  | .closeBlock text => { w with indent := w.indent - 1 }.addLine text
  | .reopen text =>
    let w := { w with indent := w.indent - 1 }.addLine text
    { w with indent := w.indent + 1 }
  | .doc none => w
  | .doc (some text) =>
    (Text.lines text).foldl (fun w line => w.addLine ("/// " ++ Text.trim line)) w
  | .blank => if w.lines.isEmpty || w.endsBlank then w else { w with lines := "" :: w.lines }

/-- The text written so far. -/
def text (w : Writer) : String := String.join (w.lines.reverse.map (· ++ "\n"))

/-- The writer after some steps. -/
def run (w : Writer) (steps : List Step) : Writer := steps.foldl step w

end Writer

/-- The text of some steps. -/
def render (steps : List Step) : String := (Writer.run {} steps).text

/-- An indented block after a line and before another. -/
def block (first : String) (body : List Step) (last : String) : List Step :=
  .openBlock first :: body ++ [.closeBlock last]

/-- A block between braces, with `tail` after the closing brace. -/
def braces (head : String) (body : List Step) (tail : String) : List Step :=
  block (head ++ " \x7b") body ("\x7d" ++ tail)

/-- A function or method: its signature and its body. -/
def method (signature : String) (body : List Step) : List Step := braces signature body ""

/-- A method whose parameters take a line each. -/
def longMethod (head : String) (parameters : List String) (result : String) (body : List Step) :
    List Step :=
  .openBlock (head ++ "(") :: parameters.map (fun parameter => .line (parameter ++ ",")) ++
    .reopen s!") -> {result} \x7b" :: body ++ [.closeBlock "\x7d"]

/-- A statement that ends in a call whose arguments take a line each. -/
def longCall (head : String) (arguments : List String) (tail : String) : List Step :=
  block (head ++ "(") (arguments.map fun argument => .line (argument ++ ",")) (")" ++ tail)

/-- The first line of every emitted file. -/
def notice : String := "// Generated by tag-gen. Do not edit; change the schema and regenerate."

/-- The start of an emitted file. -/
def header (runtimeCrate : String) (usesDefinitions : Bool) : List Step :=
  [.line notice, .blank, .line s!"use {runtimeCrate}::prelude::*;"] ++
    if usesDefinitions then [.line "use super::definitions::*;"] else []

/-- Options of emission. -/
structure Options where
  /-- Whether file encoders write hidden data too. -/
  extractHidden : Bool := false
  runtimeCrate : String := "tag_runtime"

end TagSchema.Emit
