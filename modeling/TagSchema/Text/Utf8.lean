import TagSchema.Bytes

/-!
# UTF-8

Text is stored as UTF-8. The decoder is a small automaton: between characters it waits for a leading
byte, and inside a character it knows how many continuation bytes are missing and which values the
next one may have. Ill-formed input is cut into maximal pieces, each of which is one error, so a
lossy reading shows one replacement character per piece.
-/

namespace TagSchema.Text

/-- The UTF-8 form of a text. -/
def utf8 (text : String) : Bytes := text.toUTF8.data.toList

/-- Where the decoder stands between two bytes. -/
inductive Utf8State where
  /-- Between characters. -/
  | boundary
  /-- Inside a character: `missing` more bytes, the next of them between `low` and `high`; `value`
  holds the bits read so far. -/
  | inside (missing : Nat) (low high : UInt8) (value : Nat)

namespace Utf8State

/-- What a byte does at a character boundary: a character by itself, the start of one, or an
error. -/
def lead (b : UInt8) : Option (Sum Char Utf8State) :=
  if b < 0x80 then some (.inl (Char.ofNat b.toNat))
  else if b < 0xC2 then none
  else if b < 0xE0 then some (.inr (.inside 1 0x80 0xBF (b.toNat - 0xC0)))
  else if b = 0xE0 then some (.inr (.inside 2 0xA0 0xBF 0))
  else if b = 0xED then some (.inr (.inside 2 0x80 0x9F 13))
  else if b < 0xF0 then some (.inr (.inside 2 0x80 0xBF (b.toNat - 0xE0)))
  else if b = 0xF0 then some (.inr (.inside 3 0x90 0xBF 0))
  else if b < 0xF4 then some (.inr (.inside 3 0x80 0xBF (b.toNat - 0xF0)))
  else if b = 0xF4 then some (.inr (.inside 3 0x80 0x8F 4))
  else none

/-- The characters read at a boundary from one byte, and the state after it. -/
def start (b : UInt8) : List (Option Char) × Utf8State :=
  match lead b with
  | none => ([none], .boundary)
  | some (.inl c) => ([some c], .boundary)
  | some (.inr state) => ([], state)

/-- One byte. A byte that cannot continue a character ends it as an error and is read anew. -/
def step : Utf8State → UInt8 → List (Option Char) × Utf8State
  | .boundary, b => start b
  | .inside missing low high value, b =>
    if low ≤ b ∧ b ≤ high then
      let value := value * 64 + (b.toNat - 0x80)
      if missing ≤ 1 then ([some (Char.ofNat value)], .boundary)
      else ([], .inside (missing - 1) 0x80 0xBF value)
    else
      let (characters, state) := start b
      (none :: characters, state)

/-- The characters of the rest of the input; `none` stands for an ill-formed piece. -/
def run : Utf8State → Bytes → List (Option Char)
  | .boundary, [] => []
  | .inside .., [] => [none]
  | state, b :: rest =>
    let (characters, next) := state.step b
    characters ++ run next rest

end Utf8State

/-- The text of well-formed UTF-8. -/
def decodeUtf8? (bytes : Bytes) : Option String :=
  ((Utf8State.run .boundary bytes).mapM id).map String.ofList

/-- The text of any bytes, with U+FFFD for each ill-formed piece. -/
def decodeUtf8Lossy (bytes : Bytes) : String :=
  String.ofList ((Utf8State.run .boundary bytes).map (·.getD '\uFFFD'))

end TagSchema.Text
