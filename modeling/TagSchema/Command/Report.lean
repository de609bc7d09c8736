import TagSchema.Schema.Analysis
import TagSchema.Text.Hex

/-!
# The text report

What the program shows about an analyzed schema: the order of emission, the enums and bitfields, and
every field of every struct.
-/

namespace TagSchema.Command.Report

/-- A text filled with blanks on the right. -/
def padRight (width : Nat) (text : String) : String :=
  text ++ String.ofList (List.replicate (width - text.length) ' ')

/-- A text filled with blanks on the left. -/
def padLeft (width : Nat) (text : String) : String :=
  String.ofList (List.replicate (width - text.length) ' ') ++ text

/-- The line of one position in the order of emission. -/
def orderLine (position : Nat) (name : String) : String :=
  s!"  {padLeft 3 (toString position)}. {name}"

/-- The line of an enum. -/
def enumLine (e : ResolvedEnum) : String :=
  s!"  {e.name} ({e.width} bits, {e.options.length} options)"

/-- The line of a bitfield. -/
def bitfieldLine (b : ResolvedBitfield) : String :=
  s!"  {b.name} ({b.width} bits) full {Text.hex b.fullMask}, " ++
    s!"cache only {Text.hex b.cacheOnlyMask}, read only {Text.hex b.readOnlyMask}"

/-- The remarks on a field. -/
def remarks (field : ClassifiedField) : List String :=
  [(field.inherited, "inherited"), (field.cacheOnly, "cache only"), (field.unused, "unused"),
    (field.hidden, "hidden"), (field.readOnly, "read only")].filterMap fun (holds, remark) =>
      if holds then some remark else none

/-- The line of a field. -/
def fieldLine (field : ClassifiedField) : String :=
  let remarks :=
    match remarks field with
    | [] => ""
    | remarks => " [" ++ String.intercalate ", " remarks ++ "]"
  s!"    {Text.hexPadded 4 field.offset} {padRight 32 field.identifier} {field.kind.label}{remarks}"

/-- The lines of a struct. -/
def structLines (s : ClassifiedStruct) : List String :=
  let parent := (s.inherits.map (" : " ++ ·)).getD ""
  ["", s!"  {s.name}{parent} ({Text.hex s.size} bytes)"] ++ s.fields.map fieldLine

/-- A section, left out when it has no lines. -/
def titled (title : String) : List String → List String
  | [] => []
  | lines => ["", title] ++ lines

/-- The lines of the report. -/
def lines (analysis : Analysis) : List String :=
  ["", "[~] Emission order:"] ++ analysis.order.mapIdx orderLine ++
  titled "[~] Enums:" (analysis.schema.enums.map enumLine) ++
  titled "[~] Bitfields:" (analysis.schema.bitfields.map bitfieldLine) ++
  ["", "[~] Structs:"] ++ analysis.schema.structs.flatMap structLines ++
  ["", "[✓] Analysis complete"]

end TagSchema.Command.Report
