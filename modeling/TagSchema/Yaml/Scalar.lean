import TagSchema.Json.Token
import TagSchema.Yaml.Place

/-!
# YAML scalars

A plain scalar stands for null, a truth value, a number or else its own text. Quoted and block
scalars are always texts; the rules below say how their lines are joined.
-/

namespace TagSchema.Yaml

/-! ### What a plain scalar stands for -/

/-- A number of the given digits, if all of them are digits of the base and there are any. -/
def digitsToNat? (base : Nat) (digits : List Char) : Option Nat :=
  if digits.isEmpty then none
  else digits.foldlM (fun n c =>
    match Text.hexValue? c with
    | some d => if d < base then some (n * base + d) else none
    | none => none) 0

/-- Digits after an optional base mark. -/
def unsigned? : List Char → Option Nat
  | '0' :: 'x' :: digits => digitsToNat? 16 digits
  | '0' :: 'o' :: digits => digitsToNat? 8 digits
  | '0' :: 'b' :: digits => digitsToNat? 2 digits
  | digits => digitsToNat? 10 digits

/-- Whether some digits have a zero in front and so are a text. -/
def hasLeadingZero : List Char → Bool
  | '0' :: d :: rest => (d :: rest).all Char.isDigit
  | _ => false

/-- What a whole number may be. -/
inductive Whole where
  | value (n : Int)
  /-- Too large for sixty-four bits, though a whole number. -/
  | excessive
  | notWhole

/-- The whole number that a scalar spells. -/
def wholeOf (text : List Char) : Whole :=
  let (negative, digits) :=
    match text with
    | '-' :: rest => (true, rest)
    | '+' :: rest => (false, rest)
    | _ => (false, text)
  if hasLeadingZero digits then .notWhole
  else
    match unsigned? digits with
    | none => .notWhole
    | some n =>
      if negative then
        if n ≤ 1 <<< 63 then .value (-n) else if n ≤ 1 <<< 127 then .excessive else .notWhole
      else if n < 1 <<< 64 then .value n
      else if n < 1 <<< 128 then .excessive
      else .notWhole

/-- The parts of a decimal number: its digits without the point, and its exponent. -/
def decimalParts? (text : List Char) : Option (List Char × Int) := do
  let (whole, rest) := Json.spanDigits text
  let (fraction, rest) :=
    match rest with
    | '.' :: rest => Json.spanDigits rest
    | _ => ([], rest)
  if whole.isEmpty ∧ fraction.isEmpty then none
  let (exponent, rest) ← Json.spanExponent rest
  if rest.isEmpty then some (whole ++ fraction, exponent.getD 0 - fraction.length) else none

/-- The number that a scalar spells. -/
def realOf? (text : List Char) : Option Binary64 :=
  let (negative, digits) :=
    match text with
    | '-' :: rest => (true, rest)
    | '+' :: rest => (false, rest)
    | _ => (false, text)
  let signed (word : Nat) : Binary64 :=
    ⟨if negative then word.toUInt64 ||| 0x8000000000000000 else word.toUInt64⟩
  let spelled := String.ofList digits
  if spelled ∈ [".inf", ".Inf", ".INF"] then some (signed BinaryFormat.double.infinity)
  else if String.ofList text ∈ [".nan", ".NaN", ".NAN"] then some ⟨0x7FF8000000000000⟩
  else if hasLeadingZero digits then none
  else do
    let (digits, exponent) ← decimalParts? digits
    let word := BinaryFormat.double.ofDecimal ((digitsToNat? 10 digits).getD 0) exponent
    if word = BinaryFormat.double.infinity then none else some (signed word)

/-- What a plain scalar stands for; nothing for whole numbers that no reader takes. -/
def plainValue? (text : List Char) : Option Node :=
  let spelled := String.ofList text
  if spelled ∈ ["", "~", "null", "Null", "NULL"] then some .null
  else if spelled ∈ ["true", "True", "TRUE"] then some (.bool true)
  else if spelled ∈ ["false", "False", "FALSE"] then some (.bool false)
  else
    match wholeOf text with
    | .value n => some (.whole n)
    | .excessive => none
    | .notWhole => some ((realOf? text).elim (.text spelled) .real)

/-! ### Joining lines -/

/-- What stands between two lines of a folded text with the given number of line ends between
them. -/
def folded (lineEnds : Nat) : List Char :=
  if lineEnds = 1 then [' '] else List.replicate (lineEnds - 1) '\n'

/-- Past the blanks at the start of the following lines: the line ends crossed, and the place. -/
def skipLineEnds : Nat → Nat → Place → Nat × Place
  | 0, count, place => (count, place)
  | fuel + 1, count, place =>
    let ahead := Place.skipSpaces true place.column place.text
    match ahead.text with
    | '\n' :: rest => skipLineEnds fuel (count + 1) ⟨0, rest⟩
    | _ => (count, ahead)

/-! ### Plain scalars -/

/-- Whether a character has a meaning of its own between brackets. -/
def isFlowIndicator (c : Char) : Bool := c = ',' || c = '[' || c = ']' || c = '\x7b' || c = '\x7d'

/-- Whether a plain scalar can start with these characters. -/
def canStartPlain (flow : Bool) : List Char → Bool
  | [] => false
  | c :: rest =>
    if c = '-' then !Place.atBlank rest
    else if c = '?' || c = ':' then !flow && !Place.atBlank rest
    else !(c = ' ' || c = '\t' || c = '\n' || isFlowIndicator c || c = '#' || c = '&' || c = '*' ||
      c = '!' || c = '|' || c = '>' || c = '\'' || c = '"' || c = '%' || c = '@' || c.toNat = 0x60)

/-- The part of a plain scalar on one line, where `blanks` are the blanks seen since its last
character, the last first. Fails at a colon that touches a bracket. -/
def plainLine (flow : Bool) (blanks : List Char) (column : Nat) :
    List Char → Option (List Char × Place)
  | [] => some ([], ⟨column, []⟩)
  | c :: rest =>
    let stop := some ([], ⟨column, c :: rest⟩)
    if c = '\n' then stop
    else if c = ' ' || c = '\t' then plainLine flow (c :: blanks) (column + 1) rest
    else if c = '#' && !blanks.isEmpty then stop
    else if c = ':' && Place.atBlank rest then stop
    else if flow && c = ':' && rest.head?.any (fun d => isFlowIndicator d || d = '?') then none
    else if flow && isFlowIndicator c then stop
    else
      (plainLine flow [] (column + 1) rest).map fun (text, place) =>
        (blanks.reverse ++ c :: text, place)

/-- The lines of a plain scalar after its first one. In a block they are indented deeper than
`indent`; a comment or the end of the document ends the scalar. -/
def plainRest (flow : Bool) (indent : Int) : Nat → Place → Option (List Char × Place)
  | 0, place => some ([], place)
  | fuel + 1, place =>
    match skipLineEnds (place.text.length + 1) 0 place with
    | (0, _) => some ([], place)
    | (lineEnds, ahead) =>
      if (!flow && ahead.column ≤ indent) || ahead.isDocumentEnd || ahead.text.head? = some '#' then
        some ([], place)
      else do
        let (line, stopped) ← plainLine flow [] ahead.column ahead.text
        if line.isEmpty then some ([], place)
        else do
          let (more, place) ← plainRest flow indent fuel stopped
          some (folded lineEnds ++ line ++ more, place)

/-! ### Quoted scalars -/

/-- The character of an escape that has no digits. -/
def escaped? (c : Char) : Option Char :=
  match c with
  | '0' => some '\x00' | 'a' => some '\x07' | 'b' => some '\x08' | 't' | '\t' => some '\t'
  | 'n' => some '\n' | 'v' => some '\x0b' | 'f' => some '\x0c' | 'r' => some '\r'
  | 'e' => some '\x1b' | ' ' => some ' ' | '"' => some '"' | '/' => some '/' | '\\' => some '\\'
  | 'N' => some '\u0085' | '_' => some '\u00a0' | 'L' => some '\u2028' | 'P' => some '\u2029'
  | _ => none

/-- The number of digits of an escape that has some. -/
def escapeLength (c : Char) : Nat :=
  if c = 'x' then 2 else if c = 'u' then 4 else if c = 'U' then 8 else 0

/-- A line end inside quotes: blanks before it are dropped, those after it too. -/
def quotedLineEnd (text : List Char) (column : Nat) : Option (Nat × Place) :=
  let place : Place := ⟨column, text⟩
  match skipLineEnds (text.length + 1) 0 place with
  | (0, _) => none
  | found => some found

/-- The text of a scalar in double quotes up to the closing quote. -/
def doubleQuoted : Nat → Place → Option (List Char × Place)
  | 0, _ => none
  | fuel + 1, place =>
    if !place.text.isEmpty && place.isDocumentEnd then none
    else
      match quotedLineEnd place.text place.column with
      | some (lineEnds, ahead) => do
        let (more, place) ← doubleQuoted fuel ahead
        some (folded lineEnds ++ more, place)
      | none =>
        match place.text with
        | [] => none
        | '"' :: rest => some ([], ⟨place.column + 1, rest⟩)
        | '\\' :: '\n' :: rest =>
          let (lineEnds, ahead) := skipLineEnds (rest.length + 1) 0 ⟨0, rest⟩
          (doubleQuoted fuel ahead).map fun (more, place) =>
            (List.replicate lineEnds '\n' ++ more, place)
        | '\\' :: c :: rest => do
          let count := escapeLength c
          let (value, width) ←
            if count = 0 then (escaped? c).map fun value => (value, 0)
            else do
              let point ← digitsToNat? 16 (rest.take count)
              if (rest.take count).length = count ∧ point.isValidChar then
                some (Char.ofNat point, count)
              else none
          let (more, place) ← doubleQuoted fuel ⟨place.column + 2 + width, rest.drop width⟩
          some (value :: more, place)
        | c :: rest => do
          let (more, place) ← doubleQuoted fuel ⟨place.column + 1, rest⟩
          some (c :: more, place)

/-- The text of a scalar in single quotes up to the closing quote. -/
def singleQuoted : Nat → Place → Option (List Char × Place)
  | 0, _ => none
  | fuel + 1, place =>
    if !place.text.isEmpty && place.isDocumentEnd then none
    else
      match quotedLineEnd place.text place.column with
      | some (lineEnds, ahead) => do
        let (more, place) ← singleQuoted fuel ahead
        some (folded lineEnds ++ more, place)
      | none =>
        match place.text with
        | [] => none
        | '\'' :: '\'' :: rest => do
          let (more, place) ← singleQuoted fuel ⟨place.column + 2, rest⟩
          some ('\'' :: more, place)
        | '\'' :: rest => some ([], ⟨place.column + 1, rest⟩)
        | c :: rest => do
          let (more, place) ← singleQuoted fuel ⟨place.column + 1, rest⟩
          some (c :: more, place)

/-! ### Block scalars -/

/-- What happens to the line ends at the end of a block scalar. -/
inductive Chomping where
  | strip
  | clip
  | keep

/-- The header of a block scalar after its mark: chomping, explicit indentation, and the first line
after it. -/
def blockHeader? (text : List Char) : Option (Chomping × Option Nat × List Char) := do
  let chompingOf (c : Char) : Option Chomping :=
    if c = '-' then some .strip else if c = '+' then some .keep else none
  let digitOf (c : Char) : Option Nat :=
    if '1' ≤ c ∧ c ≤ '9' then some (c.toNat - '0'.toNat) else none
  let (first, rest) := (text.head?.bind chompingOf, text)
  let rest := if first.isSome then rest.drop 1 else rest
  let width := rest.head?.bind digitOf
  let rest := if width.isSome then rest.drop 1 else rest
  let second := if first.isSome then none else rest.head?.bind chompingOf
  let rest := if second.isSome then rest.drop 1 else rest
  let ahead := Place.skipSpaces true 0 rest
  let chomping := (first.orElse fun _ => second).getD .clip
  match ahead.text with
  | [] => some (chomping, width, [])
  | '\n' :: rest => some (chomping, width, rest)
  | '#' :: rest =>
    if 0 < ahead.column then some (chomping, width, (Place.skipComment 0 rest).text.drop 1)
    else none
  | _ => none

/-- The lines of a text: each without its line end, and whether it had one. -/
def blockLines (text : List Char) : List (List Char) :=
  (text.foldr (fun c (lines : List (List Char)) =>
    match c, lines with
    | '\n', lines => [] :: lines
    | c, line :: lines => (c :: line) :: lines
    | c, [] => [[c]]) [[]])

/-- Whether a line has nothing but spaces. -/
def isSpaceLine (line : List Char) : Bool := line.all (· = ' ')

/-- The indentation of a block scalar: that of its first line with content, or the longest of the
space lines before it; at least `least`. -/
def detectIndent (least : Nat) : List (List Char) → Nat
  | [] => least
  | line :: rest =>
    let spaces := (line.takeWhile (· = ' ')).length
    if isSpaceLine line then max spaces (detectIndent least rest) else max least spaces

/-- Splits the lines of a block scalar from those after it: the lines without their indentation, the
lines left, and whether the last line of the scalar ends in a line end. -/
def takeBlock (indent : Nat) : List (List Char) → List (List Char) × List (List Char)
  | [] => ([], [])
  | line :: rest =>
    let spaces := (line.takeWhile (· = ' ')).length
    if spaces < indent && !isSpaceLine line then ([], line :: rest)
    else
      let (taken, left) := takeBlock indent rest
      (line.drop indent :: taken, left)

/-- Whether a line starts with a blank. -/
def startsBlank (line : List Char) : Bool := line.head?.any fun c => c = ' ' || c = '\t'

/-- The lines with content joined, each with the number of empty lines before it. Folding turns a
single line end between two lines that start with no blank into a space. -/
def joinLines (fold : Bool) : List (Nat × List Char) → List Char
  | [] => []
  | [(_, line)] => line
  | (_, line) :: (empty, following) :: rest =>
    let between :=
      if fold && !startsBlank line && !startsBlank following then
        if empty = 0 then [' '] else List.replicate empty '\n'
      else List.replicate (empty + 1) '\n'
    line ++ between ++ joinLines fold ((empty, following) :: rest)

/-- The lines with content, each with the number of empty lines before it, and the number of empty
lines after the last one. -/
def groupLines (empty : Nat) : List (List Char) → List (Nat × List Char) × Nat
  | [] => ([], empty)
  | [] :: rest => groupLines (empty + 1) rest
  | line :: rest =>
    let (groups, tail) := groupLines 0 rest
    ((empty, line) :: groups, tail)

/-- A block scalar after its mark, inside a block with the given indentation. -/
def blockScalar? (fold : Bool) (indent : Int) (text : List Char) : Option (List Char × Place) := do
  let (chomping, width, body) ← blockHeader? text
  let lines := blockLines body
  let least := (max (indent + 1) 1).toNat
  let depth :=
    match width with
    | some width => (max indent 0).toNat + width
    | none => detectIndent least lines
  let (taken, left) := takeBlock depth lines
  -- the last piece of the text is no line unless something stands on it
  let endsOpen := left.isEmpty && taken.getLast?.any (!·.isEmpty)
  let taken := if left.isEmpty && !endsOpen then taken.dropLast else taken
  let (groups, emptyAfter) := groupLines 0 taken
  let leading :=
    match groups with
    | (empty, _) :: _ => List.replicate empty '\n'
    | [] => []
  let content := leading ++ joinLines fold groups
  let lastBreak := if groups.isEmpty || endsOpen then [] else ['\n']
  let tail :=
    match chomping with
    | .strip => []
    | .clip => lastBreak
    | .keep => lastBreak ++ List.replicate emptyAfter '\n'
  let rest := (left.intersperse ['\n']).flatten
  some (content ++ tail, ⟨0, rest⟩)

end TagSchema.Yaml
