import TagSchema.Decimal.Notation
import TagSchema.Node
import TagSchema.Text.Hex

/-!
# Writing JSON

Documents as JSON text, either without blanks or with one item to a line. Numbers that are not
finite have no form in JSON and are written as `null`.
-/

namespace TagSchema.Json

/-- The spelling of one character between quotes. -/
def quotedChar (c : Char) : String :=
  match c with
  | '"' => "\\\""
  | '\\' => "\\\\"
  | '\n' => "\\n"
  | '\r' => "\\r"
  | '\t' => "\\t"
  | '\x08' => "\\b"
  | '\x0c' => "\\f"
  | c =>
    if c.toNat < 0x20 then
      let digits := Text.hexDigits c.toNat
      "\\u" ++ String.ofList (List.replicate (4 - digits.length) '0') ++ digits
    else String.ofList [c]

/-- A text between quotes. -/
def quoted (text : String) : String :=
  "\"" ++ String.join (text.toList.map quotedChar) ++ "\""

/-- A number that is not whole. -/
def renderReal (x : Binary64) : String :=
  if x.isFinite then DecimalStyle.json.render64 x else "null"

/-- A key. Keys are texts. -/
def renderKey : Node → String
  | .text key => quoted key
  | .whole n => quoted (toString n)
  | .bool b => quoted (toString b)
  | _ => quoted ""

mutual

/-- A document without blanks. -/
def compact : Node → String
  | .null => "null"
  | .bool b => if b then "true" else "false"
  | .whole n => toString n
  | .real x => renderReal x
  | .text s => quoted s
  | .list items => "[" ++ compactItems items ++ "]"
  | .map entries => "\x7b" ++ compactEntries entries ++ "\x7d"

/-- Items with commas between them. -/
def compactItems : List Node → String
  | [] => ""
  | [item] => compact item
  | item :: rest => compact item ++ "," ++ compactItems rest

/-- Entries with commas between them. -/
def compactEntries : List (Node × Node) → String
  | [] => ""
  | [(key, value)] => renderKey key ++ ":" ++ compact value
  | (key, value) :: rest => renderKey key ++ ":" ++ compact value ++ "," ++ compactEntries rest

end

/-- A new line with the given indentation. -/
def lineBreak (indent : Nat) : String := "\n" ++ String.ofList (List.replicate (2 * indent) ' ')

mutual

/-- A document with one item to a line, two blanks for each level. Empty containers stay closed. -/
def pretty (indent : Nat) : Node → String
  | .list [] => "[]"
  | .map [] => "\x7b\x7d"
  | .list items => "[" ++ prettyItems (indent + 1) items ++ lineBreak indent ++ "]"
  | .map entries => "\x7b" ++ prettyEntries (indent + 1) entries ++ lineBreak indent ++ "\x7d"
  | .null => "null"
  | .bool b => if b then "true" else "false"
  | .whole n => toString n
  | .real x => renderReal x
  | .text s => quoted s

/-- Items on lines of their own. -/
def prettyItems (indent : Nat) : List Node → String
  | [] => ""
  | [item] => lineBreak indent ++ pretty indent item
  | item :: rest => lineBreak indent ++ pretty indent item ++ "," ++ prettyItems indent rest

/-- Entries on lines of their own. -/
def prettyEntries (indent : Nat) : List (Node × Node) → String
  | [] => ""
  | [(key, value)] => lineBreak indent ++ renderKey key ++ ": " ++ pretty indent value
  | (key, value) :: rest =>
    lineBreak indent ++ renderKey key ++ ": " ++ pretty indent value ++ "," ++
      prettyEntries indent rest

end

end TagSchema.Json
