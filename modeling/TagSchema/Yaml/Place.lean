/-!
# Places in a YAML text

What is left of a text, with the column of its first character. Columns decide where the parts of a
block end, so every reader works on places rather than on bare text.
-/

namespace TagSchema.Yaml

/-- A position in a text: the column and the characters from there on. -/
structure Place where
  column : Nat
  text : List Char

namespace Place

/-- The place after the given character, which is the first one left. -/
def after (place : Place) (c : Char) (rest : List Char) : Place :=
  ⟨if c = '\n' then 0 else place.column + 1, rest⟩

/-- The place after the first character, if there is one. -/
def next (place : Place) : Place :=
  match place.text with
  | [] => place
  | c :: rest => place.after c rest

/-- Whether a list of characters is at a blank, at the end of a line, or at its own end. -/
def atBlank : List Char → Bool
  | [] => true
  | c :: _ => c = ' ' || c = '\t' || c = '\n'

/-- Whether the first character is an indicator that stands by itself. -/
def isIndicator (place : Place) (c : Char) : Bool :=
  match place.text with
  | d :: rest => c = d && atBlank rest
  | [] => false

/-- Whether a line of three hyphens or three dots starts here. -/
def isMarker (place : Place) (c : Char) : Bool :=
  match place.column, place.text with
  | 0, a :: b :: d :: rest => a = c && b = c && d = c && atBlank rest
  | _, _ => false

/-- Whether the document ends here. -/
def isDocumentEnd (place : Place) : Bool :=
  place.text.isEmpty || place.isMarker '-' || place.isMarker '.'

/-- Past the spaces of a line, and past tabs where they may separate. -/
def skipSpaces (tabs : Bool) : Nat → List Char → Place
  | column, ' ' :: rest => skipSpaces tabs (column + 1) rest
  | column, '\t' :: rest =>
    if tabs then skipSpaces tabs (column + 1) rest else ⟨column, '\t' :: rest⟩
  | column, text => ⟨column, text⟩

/-- Past the rest of a line, up to its end. -/
def skipComment : Nat → List Char → Place
  | column, [] => ⟨column, []⟩
  | column, c :: rest => if c = '\n' then ⟨column, c :: rest⟩ else skipComment (column + 1) rest

/-- Whether a scan over blanks crossed the end of a line, and where it stopped. At the start of a
line tabs do not count as blanks in a block. -/
def skipFrom (flow : Bool) : Nat → Bool → Bool → Place → Bool × Place
  | 0, _, crossed, place => (crossed, place)
  | fuel + 1, tabs, crossed, place =>
    let place := skipSpaces (flow || tabs) place.column place.text
    match place.text with
    | '#' :: rest => skipFrom flow fuel tabs crossed (skipComment place.column rest)
    | '\n' :: rest => skipFrom flow fuel false true ⟨0, rest⟩
    | _ => (crossed, place)

/-- Past blanks, comments and line ends, to the next thing that counts. -/
def skip (place : Place) (flow tabs : Bool) : Bool × Place :=
  skipFrom flow (place.text.length + 1) tabs false place

end Place

end TagSchema.Yaml
