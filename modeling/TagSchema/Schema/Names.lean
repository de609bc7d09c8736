import TagSchema.Text.Case

/-!
# Names in code

How display names become identifiers and constants of the emitted code.
-/

namespace TagSchema.Names

/-- The words that the emitted code cannot use as identifiers. -/
def keywords : List String := [
  "as", "async", "await", "break", "const", "continue", "crate", "dyn", "else", "enum", "extern",
  "false", "fn", "for", "if", "impl", "in", "let", "loop", "match", "mod", "move", "mut", "pub",
  "ref", "return", "self", "static", "struct", "super", "trait", "true", "type", "unsafe", "use",
  "where", "while", "abstract", "become", "box", "do", "final", "gen", "macro", "override",
  "priv", "try", "typeof", "unsized", "virtual", "yield"]

/-- Whether a character may stand in an identifier. -/
def isWordChar (c : Char) : Bool :=
  decide ('a' ≤ c ∧ c ≤ 'z') || decide ('A' ≤ c ∧ c ≤ 'Z') || decide ('0' ≤ c ∧ c ≤ '9') || c == '_'

/-- Whether a character is dropped from names without leaving a gap. -/
def isSilent (c : Char) : Bool := c == '(' || c == ')' || c == '\''

/-- The lower-case characters of a name that an identifier keeps, blanks and hyphens as
underscores. -/
def identifierChars (name : String) : List Char :=
  (((Text.lowercase name).toList.filter (!isSilent ·)).map fun c =>
    if c = ' ' ∨ c = '-' then '_' else c).filter isWordChar

/-- Whether a list of characters cannot start an identifier. -/
def needsUnderscore : List Char → Bool
  | [] => true
  | c :: _ => decide ('0' ≤ c ∧ c ≤ '9')

/-- The identifier of a member with the given display name. -/
def memberName (name : String) : String :=
  let chars := identifierChars name
  let identifier := String.ofList (if needsUnderscore chars then '_' :: chars else chars)
  if identifier ∈ keywords then identifier ++ "_" else identifier

/-- Each place where the first list occurs replaced by the second, from left to right. -/
def replaceAll (pattern replacement : List Char) : Nat → List Char → List Char
  | 0, text => text
  | _, [] => []
  | fuel + 1, c :: rest =>
    if pattern.isPrefixOf (c :: rest) then
      replacement ++ replaceAll pattern replacement fuel ((c :: rest).drop pattern.length)
    else c :: replaceAll pattern replacement fuel rest

/-- A text with each occurrence of one word replaced by another. -/
def replaceWord (pattern replacement : String) (text : List Char) : List Char :=
  replaceAll pattern.toList replacement.toList text.length text

/-- The prefix of the constants of a type: its name in capitals, with an underscore before each
word. The acronyms `UI`, `GBX` and `HUD` are one word each. -/
def constantPrefix (typeName : String) : String :=
  let folded :=
    replaceWord "HUD" "Hud" (replaceWord "GBX" "Gbx" (replaceWord "UI" "Ui" typeName.toList))
  let spaced :=
    match folded with
    | [] => []
    | first :: rest =>
      first :: rest.flatMap fun c => if 'A' ≤ c ∧ c ≤ 'Z' then ['_', c] else [c]
  String.ofList (spaced.map Text.asciiUpper)

/-- A text without the underscores at its ends. -/
def trimUnderscores (text : List Char) : List Char :=
  ((text.dropWhile (· = '_')).reverse.dropWhile (· = '_')).reverse

/-- The constant of an option of a type whose constants have the given prefix. -/
def optionConstant (typePrefix option : String) : String :=
  typePrefix ++ "_" ++
    String.ofList ((trimUnderscores (memberName option).toList).map Text.asciiUpper)

end TagSchema.Names
