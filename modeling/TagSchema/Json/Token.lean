import TagSchema.Node
import TagSchema.Text.Hex

/-!
# The tokens of JSON

A JSON text is a sequence of tokens between blanks. The lexer takes one token at a time and ends
because what is left is shorter than what was there.
-/

namespace TagSchema.Json

/-- A token: punctuation, or a value that has no parts. -/
inductive Token where
  | openList | closeList | openMap | closeMap | comma | colon
  | value (node : Node)

/-! ### Numbers -/

/-- The greatest significand that is kept exactly. -/
def significandLimit : Nat := UInt64.size

/-- The digits at the start of a text and what follows them. -/
def spanDigits (text : List Char) : List Char × List Char := text.span Char.isDigit

/-- Digits appended to a significand, as long as it stays below the limit, with the number of digits
taken. -/
def appendDigits (significand : Nat) : List Char → Nat × Nat
  | [] => (significand, 0)
  | c :: rest =>
    let next := significand * 10 + (c.toNat - '0'.toNat)
    if next < significandLimit then
      let (result, taken) := appendDigits next rest
      (result, taken + 1)
    else (significand, 0)

/-- A power of ten as a double-precision number. -/
def powerOfTen (exponent : Nat) : Float :=
  Float.ofBits (BinaryFormat.double.ofDecimal 1 exponent).toUInt64

/-- `significand * 10 ^ exponent` by one multiplication or division, or by several divisions below
the least power of ten; fails above the greatest number. -/
def scale (significand : Nat) (exponent : Int) : Option Float :=
  let f := Float.ofNat significand
  if 0 ≤ exponent then
    if 308 < exponent then if f == 0 then some f else none
    else
      let product := f * powerOfTen exponent.toNat
      if product.isInf then none else some product
  else
    let steps := ((-exponent).toNat - 1) / 308
    if 3 ≤ steps then some (f / powerOfTen 308 / powerOfTen 308 / powerOfTen 308)
    else
      some (Nat.repeat (· / powerOfTen 308) steps f / powerOfTen ((-exponent).toNat - 308 * steps))

/-- The number of a written exponent: nothing, or its sign and digits. -/
def exponentOf (digits : List Char) (negative : Bool) : Int :=
  let magnitude : Nat := digits.foldl (fun n c => n * 10 + (c.toNat - '0'.toNat)) 0
  if negative then -magnitude else magnitude

/-- The exponent part at the start of a text, if there is one: its sign and digits, and what
follows. -/
def spanExponent (text : List Char) : Option (Option Int × List Char) :=
  match text with
  | 'e' :: rest | 'E' :: rest =>
    let (negative, rest) :=
      match rest with
      | '-' :: rest => (true, rest)
      | '+' :: rest => (false, rest)
      | rest => (false, rest)
    let (digits, rest) := spanDigits rest
    if digits.isEmpty then none else some (some (exponentOf digits negative), rest)
  | _ => some (none, text)

/-- The fraction part at the start of a text, if there is one, and what follows. -/
def spanFraction (text : List Char) : Option (List Char × List Char) :=
  match text with
  | '.' :: rest =>
    let (digits, rest) := spanDigits rest
    if digits.isEmpty then none else some (digits, rest)
  | _ => some ([], text)

/-- The number with the given parts. It is whole when it has neither fraction nor exponent and fits
into sixty-four bits; negative zero is not whole. -/
def number (negative : Bool) (whole fraction : List Char) (exponent : Option Int) : Option Node :=
  let (significand, taken) := appendDigits 0 whole
  let dropped := whole.length - taken
  if fraction.isEmpty ∧ exponent.isNone ∧ dropped = 0 ∧
      (!negative ∨ (0 < significand ∧ significand ≤ 1 <<< 63)) then
    some (.whole (if negative then -significand else significand))
  else do
    let (significand, decimals) := appendDigits significand fraction
    let f ← scale significand (exponent.getD 0 + dropped - decimals)
    some (.real (.ofFloat (if negative then -f else f)))

/-- The number at the start of a text and what follows it. -/
def lexNumber (text : List Char) : Option (Node × List Char) := do
  let (negative, unsigned) :=
    match text with
    | '-' :: rest => (true, rest)
    | _ => (false, text)
  let (whole, rest) := spanDigits unsigned
  if whole.isEmpty ∨ (whole.head? = some '0' ∧ 1 < whole.length) then none
  let (fraction, rest) ← spanFraction rest
  let (exponent, rest) ← spanExponent rest
  some (← number negative whole fraction exponent, rest)

/-! ### Texts -/

/-- The number of four hexadecimal digits. -/
def hexUnit? (a b c d : Char) : Option Nat :=
  [a, b, c, d].foldlM (fun unit digit => (Text.hexValue? digit).map (unit * 16 + ·)) 0

/-- The character of a one-letter escape. -/
def escaped? (c : Char) : Option Char :=
  match c with
  | '"' | '\\' | '/' => some c
  | 'b' => some '\x08'
  | 'f' => some '\x0c'
  | 'n' => some '\n'
  | 'r' => some '\r'
  | 't' => some '\t'
  | _ => none

/-- The characters up to the closing quote, last first, after those in `before`; and what follows
the quote. Control characters must be escaped, and surrogates come in pairs. -/
def lexText (before : List Char) : List Char → Option (List Char × List Char)
  | '"' :: rest => some (before, rest)
  | '\\' :: 'u' :: a :: b :: c :: d :: rest =>
    match hexUnit? a b c d with
    | none => none
    | some unit =>
      if unit < 0xD800 ∨ 0xDFFF < unit then lexText (Char.ofNat unit :: before) rest
      else if 0xDBFF < unit then none
      else
        match rest with
        | '\\' :: 'u' :: a :: b :: c :: d :: rest =>
          match hexUnit? a b c d with
          | none => none
          | some low =>
            if low < 0xDC00 ∨ 0xDFFF < low then none
            else
              let point := 0x10000 + (unit - 0xD800) * 0x400 + (low - 0xDC00)
              lexText (Char.ofNat point :: before) rest
        | _ => none
  | '\\' :: c :: rest =>
    match escaped? c with
    | some c => lexText (c :: before) rest
    | none => none
  | c :: rest => if c.toNat < 0x20 then none else lexText (c :: before) rest
  | [] => none

/-! ### Tokens -/

/-- Whether a character may stand between tokens. -/
def isBlank (c : Char) : Bool := c = ' ' || c = '\t' || c = '\n' || c = '\r'

/-- The token at the start of a text that starts with no blank, and what follows it. -/
def lexToken : List Char → Option (Token × List Char)
  | '[' :: rest => some (.openList, rest)
  | ']' :: rest => some (.closeList, rest)
  | '\x7b' :: rest => some (.openMap, rest)
  | '\x7d' :: rest => some (.closeMap, rest)
  | ',' :: rest => some (.comma, rest)
  | ':' :: rest => some (.colon, rest)
  | '"' :: rest =>
    (lexText [] rest).map fun (text, rest) => (.value (.text (String.ofList text.reverse)), rest)
  | 'n' :: 'u' :: 'l' :: 'l' :: rest => some (.value .null, rest)
  | 't' :: 'r' :: 'u' :: 'e' :: rest => some (.value (.bool true), rest)
  | 'f' :: 'a' :: 'l' :: 's' :: 'e' :: rest => some (.value (.bool false), rest)
  | text => (lexNumber text).map fun (node, rest) => (.value node, rest)

/-- The tokens of a text. Each token is lexed from what the one before it left, and at most as many
are taken as there are characters. -/
def lexUpTo : Nat → List Char → Option (List Token)
  | 0, text => if (text.dropWhile isBlank).isEmpty then some [] else none
  | limit + 1, text =>
    match text.dropWhile isBlank with
    | [] => some []
    | text => do
      let (token, rest) ← lexToken text
      let tokens ← lexUpTo limit rest
      some (token :: tokens)

/-- The tokens of a text. -/
def lex (text : List Char) : Option (List Token) := lexUpTo text.length text

end TagSchema.Json
