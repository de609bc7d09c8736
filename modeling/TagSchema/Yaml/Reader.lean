import TagSchema.Yaml.Scalar

/-!
# Reading YAML

The block and flow collections of a document. Blocks are read by indentation: a collection goes on
as long as its entries start in the same column. Every step of a reader takes some text, and a count
of steps, at first larger than the text, ends the recursion.
-/

namespace TagSchema.Yaml

/-- The nodes that have been given a name so far. -/
abbrev Anchors := List (String × Node)

/-- A node that has been read, with the names known after it and the place where it ends. -/
abbrev Read := Node × Anchors × Place

/-- What stands before a node: its name and its tag. -/
structure Properties where
  anchor : Option String := none
  tag : Option String := none

/-- Whether a character may stand in the name of an anchor. -/
def isAnchorChar (c : Char) : Bool := c.isAlphanum || c = '_' || c = '-'

/-- The characters of a word and the place after them. -/
def wordAt (accept : Char → Bool) (place : Place) : String × Place :=
  let word := place.text.takeWhile accept
  (String.ofList word, ⟨place.column + word.length, place.text.drop word.length⟩)

/-- The properties at a place, and where they end. Nothing but blanks may touch them. -/
def properties? : Nat → Properties → Place → Option (Properties × Place)
  | 0, found, place => some (found, place)
  | fuel + 1, found, place =>
    match place.text with
    | '&' :: _ =>
      let (name, after) := wordAt isAnchorChar place.next
      if name.isEmpty || found.anchor.isSome then none
      else
        properties? fuel { found with anchor := some name }
          (Place.skipSpaces true after.column after.text)
    | '!' :: _ =>
      let (name, after) :=
        wordAt (fun c => !Place.atBlank [c] && c ≠ ',' && !isFlowIndicator c) place
      if found.tag.isSome then none
      else
        properties? fuel { found with tag := some name }
          (Place.skipSpaces true after.column after.text)
    | _ => some (found, place)

/-- A scalar under a tag. Only the tags of the core schema have a meaning. -/
def tagged? (tag : Option String) (plain : Bool) (text : List Char) : Option Node :=
  match tag with
  | none => if plain then plainValue? text else some (.text (String.ofList text))
  | some "!!str" | some "!" => some (.text (String.ofList text))
  | some "!!int" => (plainValue? text).filter fun | .whole _ => true | _ => false
  | some "!!float" => (realOf? text).map .real
  | some "!!bool" => (plainValue? text).filter fun | .bool _ => true | _ => false
  | some "!!null" => (plainValue? text).filter fun | .null => true | _ => false
  | some _ => none

/-- A collection under a tag. -/
def taggedCollection? (tag : Option String) (node : Node) : Option Node :=
  match tag with
  | none | some "!" | some "!!seq" | some "!!map" => some node
  | some _ => none

/-- The names known after a node with the given properties. -/
def Properties.bind (properties : Properties) (node : Node) (anchors : Anchors) : Anchors :=
  match properties.anchor with
  | some name => (name, node) :: anchors
  | none => anchors

/-- A scalar without indentation: quoted, plain, or the name of an earlier node. A plain scalar goes
on over lines that are indented deeper than `indent`, if it may have more than one. -/
def scalar? (flow multiline : Bool) (indent : Int) (properties : Properties) (anchors : Anchors)
    (place : Place) : Option Read := do
  let fuel := place.text.length + 1
  match place.text with
  | '*' :: _ =>
    let (name, after) := wordAt isAnchorChar place.next
    if properties.anchor.isSome || properties.tag.isSome then none
    else some (← anchors.lookup name, anchors, after)
  | '"' :: _ =>
    let (text, after) ← doubleQuoted fuel place.next
    let node ← tagged? properties.tag false text
    some (node, properties.bind node anchors, after)
  | '\'' :: _ =>
    let (text, after) ← singleQuoted fuel place.next
    let node ← tagged? properties.tag false text
    some (node, properties.bind node anchors, after)
  | text =>
    if !canStartPlain flow text then none
    else do
      let (first, after) ← plainLine flow [] place.column text
      let (rest, after) ← if multiline then plainRest flow indent fuel after else some ([], after)
      let node ← tagged? properties.tag true (first ++ rest)
      some (node, properties.bind node anchors, after)

/-! ### Flow collections -/

mutual

/-- A node between brackets. -/
def flowNode? : Nat → Nat → Anchors → Place → Option Read
  | 0, _, _, _ => none
  | fuel + 1, depth, anchors, place => do
    let (properties, place) ← properties? 2 {} place
    let (_, place) := place.skip true true
    match depth, place.text with
    | 0, '[' :: _ | 0, '\x7b' :: _ => none
    | depth + 1, '[' :: _ =>
      let (items, anchors, place) ← flowList? fuel depth anchors place.next
      let node ← taggedCollection? properties.tag (.list items)
      some (node, properties.bind node anchors, place)
    | depth + 1, '\x7b' :: _ =>
      let (entries, anchors, place) ← flowMap? fuel depth anchors place.next
      let node ← taggedCollection? properties.tag (.map entries)
      some (node, properties.bind node anchors, place)
    | _, c :: _ =>
      if c = ',' || c = ']' || c = '\x7d' || c = ':' then do
        let node ← tagged? properties.tag true []
        some (node, properties.bind node anchors, place)
      else scalar? true true 0 properties anchors place
    | _, [] => none

/-- The value after a key between brackets, if a colon follows it. -/
def flowValue? : Nat → Nat → Anchors → Place → Option (Option Node × Anchors × Place)
  | 0, _, _, _ => none
  | fuel + 1, depth, anchors, place =>
    match (place.skip true true).2 with
    | ⟨column, ':' :: rest⟩ => do
      let next := ((Place.mk (column + 1) rest).skip true true).2
      let (value, anchors, place) ← flowNode? fuel depth anchors next
      some (some value, anchors, place)
    | place => some (none, anchors, place)

/-- The items of a list up to its bracket. -/
def flowList? : Nat → Nat → Anchors → Place → Option (List Node × Anchors × Place)
  | 0, _, _, _ => none
  | fuel + 1, depth, anchors, place =>
    let place := (place.skip true true).2
    match place.text with
    | ']' :: _ => some ([], anchors, place.next)
    | ',' :: _ => none
    | _ => do
      let (key, anchors, place) ← flowNode? fuel depth anchors place
      let (value, anchors, place) ← flowValue? fuel depth anchors place
      let item := value.elim key fun value => .map [(key, value)]
      let place := (place.skip true true).2
      match place.text with
      | ',' :: _ =>
        let (items, anchors, place) ← flowList? fuel depth anchors place.next
        some (item :: items, anchors, place)
      | ']' :: _ => some ([item], anchors, place.next)
      | _ => none

/-- The entries of a map up to its brace. -/
def flowMap? : Nat → Nat → Anchors → Place → Option (List (Node × Node) × Anchors × Place)
  | 0, _, _, _ => none
  | fuel + 1, depth, anchors, place =>
    let place := (place.skip true true).2
    match place.text with
    | '\x7d' :: _ => some ([], anchors, place.next)
    | ',' :: _ => none
    | _ => do
      let (key, anchors, place) ← flowNode? fuel depth anchors place
      let (value, anchors, place) ← flowValue? fuel depth anchors place
      let entry := (key, value.getD .null)
      let place := (place.skip true true).2
      match place.text with
      | ',' :: _ =>
        let (entries, anchors, place) ← flowMap? fuel depth anchors place.next
        some (entry :: entries, anchors, place)
      | '\x7d' :: _ => some ([entry], anchors, place.next)
      | _ => none

end

/-- A node without indentation: a scalar or a flow collection. -/
def inline? (multiline : Bool) (depth : Nat) (indent : Int) (properties : Properties)
    (anchors : Anchors)
    (place : Place) : Option Read :=
  match place.text with
  | '[' :: _ | '\x7b' :: _ => do
    let (node, anchors, after) ← flowNode? (2 * place.text.length + 2) depth anchors place
    let node ← taggedCollection? properties.tag node
    some (node, properties.bind node anchors, after)
  | _ => scalar? false multiline indent properties anchors place

/-- The characters between two places of one text. -/
def between (start stop : Place) : List Char :=
  start.text.take (start.text.length - stop.text.length)

/-- A key on one line with its colon: the key, and the place after the colon. -/
def simpleKey? (depth : Nat) (anchors : Anchors) (place : Place) : Option Read := do
  let (properties, start) ← properties? 2 {} place
  let (key, anchors, after) ← inline? false depth 0 properties anchors start
  let after := Place.skipSpaces true after.column after.text
  match after.text with
  | ':' :: rest =>
    let written := between place after
    if Place.atBlank rest && !written.contains '\n' && written.length ≤ 1024 then
      some (key, anchors, ⟨after.column + 1, rest⟩)
    else none
  | _ => none

/-! ### Block collections -/

mutual

/-- A node of a block with the given indentation. `fresh` says that the node starts where keys and
list items may start; `level` that a list may start in the column of the block itself. A missing
node is null. -/
def blockNode? : Nat → Nat → Int → Bool → Bool → Properties → Anchors → Place → Option Read
  | 0, _, _, _, _, _, _, _ => none
  | fuel + 1, depth, indent, fresh, level, properties, anchors, place =>
    let missing : Option Read := do
      let node ← tagged? properties.tag true []
      some (node, properties.bind node anchors, place)
    if place.isDocumentEnd then missing
    else if (place.column : Int) < indent ||
        ((place.column : Int) = indent && !(level && place.isIndicator '-'))
    then missing
    else if place.isIndicator '-' then
      match depth with
      | depth + 1 =>
        if !fresh then none
        else do
          let (items, anchors, after) ← blockList? fuel depth place.column anchors place
          let node ← taggedCollection? properties.tag (.list items)
          some (node, properties.bind node anchors, after)
      | 0 => none
    else if place.isIndicator '?' || (simpleKey? depth anchors place).isSome then
      match depth with
      | depth + 1 =>
        if !fresh then none
        else do
          let (entries, anchors, after) ← blockMap? fuel depth place.column anchors place
          let node ← taggedCollection? properties.tag (.map entries)
          some (node, properties.bind node anchors, after)
      | 0 => none
    else
      match place.text with
      | '&' :: _ | '!' :: _ => do
        if properties.anchor.isSome || properties.tag.isSome then none
        let (properties, after) ← properties? 2 {} place
        let (crossed, after) := after.skip false true
        blockNode? fuel depth indent crossed (level && crossed) properties anchors after
      | '|' :: text => do
        let (text, after) ← blockScalar? false indent text
        let node ← tagged? properties.tag false text
        some (node, properties.bind node anchors, after)
      | '>' :: text => do
        let (text, after) ← blockScalar? true indent text
        let node ← tagged? properties.tag false text
        some (node, properties.bind node anchors, after)
      | _ => do
        let (node, anchors, after) ← inline? true depth indent properties anchors place
        let (crossed, ahead) := after.skip false true
        if crossed || ahead.text.isEmpty then some (node, anchors, ahead) else none

/-- The items of a list whose hyphens stand in the given column. -/
def blockList? : Nat → Nat → Nat → Anchors → Place → Option (List Node × Anchors × Place)
  | 0, _, _, _, _ => none
  | fuel + 1, depth, column, anchors, place =>
    if place.column = column && !place.isDocumentEnd && place.isIndicator '-' then do
      let (_, start) := place.next.skip false false
      let (item, anchors, after) ← blockNode? fuel depth column true false {} anchors start
      let (_, after) := after.skip false false
      let (items, anchors, after) ← blockList? fuel depth column anchors after
      some (item :: items, anchors, after)
    else some ([], anchors, place)

/-- The value of an entry of a map whose keys stand in the given column. -/
def blockValue? : Nat → Nat → Nat → Bool → Anchors → Place → Option Read
  | 0, _, _, _, _, _ => none
  | fuel + 1, depth, column, fresh, anchors, place => do
    let (crossed, start) := place.skip false true
    let (value, anchors, after) ←
      blockNode? fuel depth column (fresh || crossed) crossed {} anchors start
    some (value, anchors, (after.skip false false).2)

/-- The entries of a map whose keys stand in the given column. -/
def blockMap? : Nat → Nat → Nat → Anchors → Place → Option (List (Node × Node) × Anchors × Place)
  | 0, _, _, _, _ => none
  | fuel + 1, depth, column, anchors, place =>
    if place.column ≠ column || place.isDocumentEnd || place.isIndicator '-' then
      some ([], anchors, place)
    else if place.isIndicator '?' then do
      let (_, start) := place.next.skip false false
      let (key, anchors, after) ← blockNode? fuel depth column true false {} anchors start
      let (_, after) := after.skip false false
      let (value, anchors, after) ←
        if after.column = column && after.isIndicator ':' then
          blockValue? fuel depth column true anchors after.next
        else some (.null, anchors, after)
      let (entries, anchors, after) ← blockMap? fuel depth column anchors after
      some ((key, value) :: entries, anchors, after)
    else do
      let (key, anchors, after) ← simpleKey? depth anchors place
      let (value, anchors, after) ← blockValue? fuel depth column false anchors after
      let (entries, anchors, after) ← blockMap? fuel depth column anchors after
      some ((key, value) :: entries, anchors, after)

end

/-! ### Documents -/

/-- Whether a character may stand in a text. -/
def isAllowed (c : Char) : Bool :=
  let point := c.toNat
  c = '\t' || c = '\n' || c = '\r' || (0x20 ≤ point && point ≤ 0x7E) || point = 0x85 ||
    (0xA0 ≤ point && point ≤ 0xFFFD && point ≠ 0xFEFF) || 0x10000 ≤ point

/-- A text with every line end written the same way. -/
def normalizeLineEnds : List Char → List Char
  | '\r' :: '\n' :: rest => '\n' :: normalizeLineEnds rest
  | '\r' :: rest => '\n' :: normalizeLineEnds rest
  | '\u0085' :: rest => '\n' :: normalizeLineEnds rest
  | c :: rest => c :: normalizeLineEnds rest
  | [] => []

/-- Past the directives in front of a document. -/
def skipDirectives : Nat → Bool → Place → Bool × Place
  | 0, found, place => (found, place)
  | fuel + 1, found, place =>
    match place.column, place.text with
    | 0, '%' :: rest => skipDirectives fuel true ((Place.skipComment 1 rest).skip false false).2
    | _, _ => (found, place)

/-- Past the markers that may follow a document; fails if a second document starts. -/
def endOfStream : Nat → Place → Option Unit
  | 0, _ => none
  | fuel + 1, place =>
    if place.text.isEmpty then some ()
    else if place.isMarker '.' then
      endOfStream fuel ((Place.mk 3 (place.text.drop 3)).skip false true).2
    else none

/-- The collections that a document may nest in each other. -/
def defaultDepth : Nat := 128

/-- The document of a text. An empty document is an empty list. -/
def read? (depth : Nat) (text : String) : Option Node := do
  let chars := match text.toList with
    | '\uFEFF' :: rest => rest
    | chars => chars
  if !chars.all isAllowed then none
  let chars := normalizeLineEnds chars
  let fuel := 4 * chars.length + 8
  let (_, start) := (Place.mk 0 chars).skip false false
  let (directives, start) := skipDirectives fuel false start
  if directives && !start.isMarker '-' then none
  let (fresh, start) :=
    if start.isMarker '-' then
      (Place.mk 3 (start.text.drop 3)).skip false true
    else (true, start)
  if start.isDocumentEnd then
    endOfStream fuel start
    some (.list [])
  else do
    let (node, _, after) ← blockNode? fuel depth (-1) fresh false {} [] start
    endOfStream fuel (after.skip false false).2
    some node

end TagSchema.Yaml
