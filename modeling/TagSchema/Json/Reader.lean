import TagSchema.Json.Token

/-!
# Reading JSON

The reader is a machine that takes the tokens one by one. It remembers the containers it is inside
of, and what may come next.
-/

namespace TagSchema.Json

/-- A container that is not closed yet, with what it holds so far, the last first. -/
inductive Frame where
  | list (items : List Node)
  /-- Inside a map, after a key. -/
  | map (entries : List (Node × Node)) (key : Node)

/-- What may come next. -/
inductive Expectation where
  | value
  /-- The first item of a list, or its end. -/
  | item
  /-- The first key of the map with no entries, or its end. -/
  | firstKey
  /-- A key of the map with these entries. -/
  | key (entries : List (Node × Node))
  | colon
  /-- A comma, or the end of the innermost container. -/
  | separator
  /-- Nothing: the document is complete. -/
  | nothing (document : Node)

/-- The state of the reader. -/
structure State where
  stack : List Frame
  expected : Expectation

/-- The state after a value is complete. -/
def State.complete (stack : List Frame) (node : Node) : State :=
  match stack with
  | [] => ⟨[], .nothing node⟩
  | .list items :: rest => ⟨.list (node :: items) :: rest, .separator⟩
  | .map entries key :: rest => ⟨.map ((key, node) :: entries) key :: rest, .separator⟩

/-- The start of a value. Containers may be nested in each other less than `depth` deep. -/
def State.beginValue (depth : Nat) (stack : List Frame) : Token → Option State
  | .value node => some (State.complete stack node)
  | .openList => if stack.length + 1 < depth then some ⟨.list [] :: stack, .item⟩ else none
  | .openMap => if stack.length + 1 < depth then some ⟨stack, .firstKey⟩ else none
  | _ => none

/-- One token. -/
def State.step (depth : Nat) (state : State) (token : Token) : Option State :=
  match state.expected, token with
  | .value, token => State.beginValue depth state.stack token
  | .item, .closeList =>
    match state.stack with
    | .list items :: rest => some (State.complete rest (.list items.reverse))
    | _ => none
  | .item, token => State.beginValue depth state.stack token
  | .firstKey, .closeMap => some (State.complete state.stack (.map []))
  | .firstKey, .value (.text key) => some ⟨.map [] (.text key) :: state.stack, .colon⟩
  | .key entries, .value (.text key) => some ⟨.map entries (.text key) :: state.stack, .colon⟩
  | .colon, .colon => some ⟨state.stack, .value⟩
  | .separator, .comma =>
    match state.stack with
    | .list items :: rest => some ⟨.list items :: rest, .value⟩
    | .map entries _ :: rest => some ⟨rest, .key entries⟩
    | [] => none
  | .separator, .closeList =>
    match state.stack with
    | .list items :: rest => some (State.complete rest (.list items.reverse))
    | _ => none
  | .separator, .closeMap =>
    match state.stack with
    | .map entries _ :: rest => some (State.complete rest (.map entries.reverse))
    | _ => none
  | _, _ => none

/-- The containers that a document may nest in each other. -/
def defaultDepth : Nat := 128

/-- The document of a text. -/
def read? (depth : Nat) (text : String) : Option Node := do
  let tokens ← lex text.toList
  let state ← tokens.foldlM (State.step depth) ⟨[], .value⟩
  match state.expected with
  | .nothing document => some document
  | _ => none

end TagSchema.Json
