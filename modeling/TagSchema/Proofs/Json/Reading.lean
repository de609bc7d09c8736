import TagSchema.Json.Reader
import TagSchema.Proofs.Json.Lexing

/-!
# Documents are read back

A document that is written without blanks is read as the document it was: the reader passes over
the spelling of each part and then stands where it would stand had it been given the part itself.
What a document needs for this is said by `Readable`: its keys are texts, its whole numbers fit into
sixty-four bits, each other number is read as it is written, and its containers are not nested
deeper than the reader goes.
-/

namespace TagSchema.Json

/-- A document with text keys and numbers that are read as they are written, with at most so many
containers in each other. -/
inductive Readable : Nat → Node → Prop
  | null (room : Nat) : Readable room .null
  | bool (room : Nat) (b : Bool) : Readable room (.bool b)
  | whole (room : Nat) {n : Nat} (small : n < significandLimit) : Readable room (.whole n)
  | real (room : Nat) {x : Binary64} (readsBack : ReadsBack x) : Readable room (.real x)
  | text (room : Nat) (s : String) : Readable room (.text s)
  | list {room : Nat} {items : List Node} (inside : ∀ item ∈ items, Readable room item) :
    Readable (room + 1) (.list items)
  | record {room : Nat} {entries : List (String × Node)}
    (inside : ∀ entry ∈ entries, Readable room entry.2) : Readable (room + 1) (.record entries)

/-! ### Spellings of values -/

/-- A token is a number wherever one can be read, since no other token begins like one. -/
theorem lexToken_number {text rest : List Char} {node : Node}
    (h : lexNumber text = some (node, rest)) : lexToken text = some (.value node, rest) := by
  rw [lexToken.eq_def]
  split
  -- The first character decides against a number wherever it decides for another token.
  iterate 10 cases h
  rw [h]
  rfl

/-- A number is one token where no character follows that could belong to it. -/
theorem lexes_number {text rest : List Char} {node : Node}
    (h : lexNumber text = some (node, [])) (delimited : Delimited rest) :
    Lexes (text ++ rest) [.value node] rest := by
  have longer := lexToken_number (lexNumber_append delimited h)
  cases text with
  | nil => cases h
  | cons c text =>
    refine .single text ?_ longer
    rw [Bool.eq_false_iff]
    intro blank
    simp only [isBlank, Bool.or_eq_true, decide_eq_true_eq] at blank
    obtain ((rfl | rfl) | rfl) | rfl := blank <;> cases h

theorem toList_quoted (text : String) :
    (quoted text).toList = '"' :: (spelling text.toList ++ ['"']) := by
  rw [quoted, String.toList_append, String.toList_append, String.toList_join, List.flatMap_map]
  rfl

/-- A quoted text is one token, whatever it contains and whatever follows. -/
theorem lexes_quoted (text : String) (rest : List Char) :
    Lexes ((quoted text).toList ++ rest) [.value (.text text)] rest := by
  rw [toList_quoted, List.cons_append]
  refine .single _ rfl ?_
  rw [List.append_assoc, List.singleton_append, lexToken, lexText_spelling]
  simp only [Option.map_some, List.append_nil, List.reverse_reverse, String.ofList_toList]

/-! ### Passing over a part of a text -/

/-- The reader gets from one state to another over what a text has before a rest. -/
def Passes (depth : Nat) (text : List Char) (state : State) (rest : List Char) (next : State) :
    Prop :=
  ∃ tokens, Lexes text tokens rest ∧ tokens.foldlM (State.step depth) state = some next

section
variable {depth : Nat} {text middle rest : List Char} {state between next : State}

/-- Passing over two texts, one after the other, is passing over both. -/
theorem Passes.trans (first : Passes depth text state middle between)
    (second : Passes depth middle between rest next) : Passes depth text state rest next := by
  obtain ⟨tokens, lexes, run⟩ := first
  obtain ⟨more, lexes', run'⟩ := second
  refine ⟨tokens ++ more, lexes.append lexes', ?_⟩
  rw [List.foldlM_append, run]
  exact run'

/-- Passing over a single token is a step of the machine. -/
theorem Passes.token {token : Token} (lexes : Lexes text [token] rest)
    (step : state.step depth token = some next) : Passes depth text state rest next := by
  refine ⟨[token], lexes, ?_⟩
  rw [List.foldlM_cons, step]
  rfl

/-- A character that is a token is passed over. -/
theorem Passes.mark {c : Char} {token : Token} (solid : isBlank c = false)
    (taken : lexToken (c :: rest) = some (token, rest))
    (step : state.step depth token = some next) : Passes depth (c :: rest) state rest next :=
  .token (.single [] solid taken) step

end

/-- The reader may meet a value here. -/
def State.Opens (state : State) : Prop := state.expected = .value ∨ state.expected = .item

/-- Where a value may begin, every token begins one, but for the end of a list. -/
theorem State.Opens.step {depth : Nat} {state : State} (opens : state.Opens) (token : Token)
    (h : token ≠ .closeList) : state.step depth token = beginValue depth state.stack token := by
  obtain ⟨stack, expected⟩ := state
  obtain rfl | rfl := opens
  · rfl
  · cases token with
    | closeList => exact absurd rfl h
    | _ => rfl

/-- The spelling of a document is passed over wherever a value may come, in as many containers as
leave the room that it needs. The state and the rest are arbitrary, so that what holds of the parts
of a container can be put together. -/
def PassedOver (depth room : Nat) (node : Node) : Prop :=
  ∀ (state : State) (rest : List Char), state.Opens → state.stack.length + room < depth →
    Delimited rest →
      Passes depth ((compact node).toList ++ rest) state rest (State.complete state.stack node)

/-- A value of one token is passed over in one step. -/
theorem passedOver_of_lexes {depth room : Nat} {node : Node}
    (h : ∀ rest, Delimited rest →
      Lexes ((compact node).toList ++ rest) [.value node] rest) : PassedOver depth room node := by
  intro state rest opens _ delimited
  refine .token (h rest delimited) ?_
  rw [opens.step (.value node) nofun]
  rfl

/-! ### Lists -/

section
variable {depth room : Nat}

/-- The items of a list are passed over one by one: each is added to the frame on top, and the
bracket at the end completes the list. -/
theorem passes_items {item : Node} {items : List Node}
    (each : ∀ node ∈ item :: items, PassedOver depth room node) (state : State)
    {before : List Node} {stack : List Frame} (opens : state.Opens)
    (inside : state.stack = .list before :: stack) (bound : stack.length + 1 + room < depth)
    (rest : List Char) :
    Passes depth ((compactItems (item :: items)).toList ++ ']' :: rest) state rest
      (State.complete stack (.list (before.reverse ++ item :: items))) := by
  -- The induction is on the items behind the first: where a list opens, its end may come as well,
  -- but behind a comma only a value.
  induction items generalizing item state before with
  | nil =>
    have first := each item List.mem_cons_self state (']' :: rest) opens
      (by rw [inside]; exact bound) (delimited_cons (by decide) rest)
    rw [inside] at first
    refine first.trans (.mark rfl rfl ?_)
    rw [← List.reverse_cons]
    rfl
  | cons next items ih =>
    have spelled : (compactItems (item :: next :: items)).toList ++ ']' :: rest =
        (compact item).toList ++ ',' :: ((compactItems (next :: items)).toList ++ ']' :: rest) := by
      simp only [compactItems, String.toList_append, List.append_assoc]
      rfl
    rw [spelled]
    have first := each item List.mem_cons_self state
      (',' :: ((compactItems (next :: items)).toList ++ ']' :: rest)) opens
      (by rw [inside]; exact bound) (delimited_cons (by decide) _)
    rw [inside] at first
    refine first.trans (.trans (.mark rfl rfl rfl) ?_)
    have others := ih (fun node mem => each node (List.mem_cons_of_mem _ mem))
      ⟨.list (item :: before) :: stack, .value⟩ (.inl rfl) rfl
    rw [List.reverse_cons, List.append_assoc, List.singleton_append] at others
    exact others

/-- A list is passed over if its items are, one level further down. -/
theorem passedOver_list {items : List Node} (each : ∀ item ∈ items, PassedOver depth room item) :
    PassedOver depth (room + 1) (.list items) := by
  intro state rest opens bound _
  have spelled : (compact (.list items)).toList ++ rest =
      '[' :: ((compactItems items).toList ++ ']' :: rest) := by
    simp only [compact, String.toList_append, List.append_assoc]
    rfl
  have opened : state.step depth .openList = some ⟨.list [] :: state.stack, .item⟩ := by
    rw [opens.step .openList nofun]
    exact if_pos (by omega)
  rw [spelled]
  refine .trans (.mark rfl rfl opened) ?_
  cases items with
  | nil => exact .mark rfl rfl rfl
  | cons item items =>
    exact passes_items each ⟨.list [] :: state.stack, .item⟩ (.inr rfl) rfl (by omega) rest

/-! ### Maps -/

/-- The reader may meet a key here, after these entries. -/
def State.OpensKey (before : List (Node × Node)) (state : State) : Prop :=
  state.expected = .key before ∨ (state.expected = .firstKey ∧ before = [])

/-- Where a key may stand, a text is one. -/
theorem State.OpensKey.step {before : List (Node × Node)} {state : State}
    (opens : state.OpensKey before) (key : String) :
    state.step depth (.value (.text key)) =
      some ⟨.map before (.text key) :: state.stack, .colon⟩ := by
  obtain ⟨stack, expected⟩ := state
  obtain rfl | ⟨rfl, rfl⟩ := opens <;> rfl

/-- The entries of a record as a document has them. -/
def keyed (entries : List (String × Node)) : List (Node × Node) :=
  entries.map fun (key, value) => (.text key, value)

/-- An entry is passed over by its key, a colon, and its value, which is filed under the key. -/
theorem passes_entry {key : String} {value : Node} (passed : PassedOver depth room value)
    {state : State} {before : List (Node × Node)} (opens : state.OpensKey before)
    (bound : state.stack.length + 1 + room < depth) {rest : List Char}
    (delimited : Delimited rest) :
    Passes depth ((quoted key).toList ++ ':' :: ((compact value).toList ++ rest)) state rest
      ⟨.map ((.text key, value) :: before) (.text key) :: state.stack, .separator⟩ := by
  refine .trans (.token (lexes_quoted key _) (opens.step key)) (.trans (.mark rfl rfl rfl) ?_)
  exact passed ⟨.map before (.text key) :: state.stack, .value⟩ rest (.inl rfl) bound delimited

/-- The entries of a record are passed over one by one, as the items of a list are. -/
theorem passes_entries {key : String} {value : Node} {entries : List (String × Node)}
    (each : ∀ entry ∈ (key, value) :: entries, PassedOver depth room entry.2) (state : State)
    (before : List (Node × Node)) (opens : state.OpensKey before)
    (bound : state.stack.length + 1 + room < depth) (rest : List Char) :
    Passes depth ((compactEntries (keyed ((key, value) :: entries))).toList ++ '\x7d' :: rest)
      state rest
      (State.complete state.stack (.map (before.reverse ++ keyed ((key, value) :: entries)))) := by
  -- The entries that were read are in the frame in reverse; a comma leads to the next key, and the
  -- brace completes the record.
  induction entries generalizing key value state before with
  | nil =>
    have spelled : (compactEntries (keyed [(key, value)])).toList ++ '\x7d' :: rest =
        (quoted key).toList ++ ':' :: ((compact value).toList ++ '\x7d' :: rest) := by
      simp only [keyed, List.map_cons, List.map_nil, compactEntries, renderKey,
        String.toList_append, List.append_assoc]
      rfl
    rw [spelled]
    refine (passes_entry (each (key, value) List.mem_cons_self) opens bound
      (delimited_cons (by decide) rest)).trans (.mark rfl rfl ?_)
    have whole : before.reverse ++ keyed [(key, value)] =
        ((.text key, value) :: before).reverse := List.reverse_cons.symm
    rw [whole]
    rfl
  | cons next entries ih =>
    have spelled :
        (compactEntries (keyed ((key, value) :: next :: entries))).toList ++ '\x7d' :: rest =
          (quoted key).toList ++ ':' :: ((compact value).toList ++
            ',' :: ((compactEntries (keyed (next :: entries))).toList ++ '\x7d' :: rest)) := by
      simp only [keyed, List.map_cons, compactEntries, renderKey, String.toList_append,
        List.append_assoc]
      rfl
    rw [spelled]
    refine (passes_entry (each (key, value) List.mem_cons_self) opens bound
      (delimited_cons (by decide) _)).trans (.trans (.mark rfl rfl rfl) ?_)
    have others := ih (fun entry mem => each entry (List.mem_cons_of_mem _ mem))
      ⟨state.stack, .key ((.text key, value) :: before)⟩ _ (.inl rfl) bound
    rw [List.reverse_cons, List.append_assoc, List.singleton_append] at others
    exact others

/-- A record is passed over if its values are, one level further down. -/
theorem passedOver_record {entries : List (String × Node)}
    (each : ∀ entry ∈ entries, PassedOver depth room entry.2) :
    PassedOver depth (room + 1) (.record entries) := by
  intro state rest opens bound _
  have spelled : (compact (.record entries)).toList ++ rest =
      '\x7b' :: ((compactEntries (keyed entries)).toList ++ '\x7d' :: rest) := by
    simp only [Node.record, compact, String.toList_append, List.append_assoc]
    rfl
  -- There is room for one more level, since the entries need it.
  have opened : state.step depth .openMap = some ⟨state.stack, .firstKey⟩ := by
    rw [opens.step .openMap nofun]
    exact if_pos (by omega)
  rw [spelled]
  refine .trans (.mark rfl rfl opened) ?_
  cases entries with
  | nil => exact .mark rfl rfl rfl
  | cons entry entries =>
    exact passes_entries each ⟨state.stack, .firstKey⟩ [] (.inr ⟨rfl, rfl⟩)
      (by dsimp only; omega) rest

end

/-! ### Documents -/

/-- Everything readable is passed over, by induction on what makes it readable. -/
theorem Readable.passedOver (depth : Nat) {room : Nat} {node : Node}
    (readable : Readable room node) : PassedOver depth room node := by
  -- Values of one token are passed over in a step, the others by what is known of their parts.
  induction readable with
  | null => exact passedOver_of_lexes fun rest _ => .single ['u', 'l', 'l'] rfl rfl
  | bool room b =>
    refine passedOver_of_lexes fun rest _ => ?_
    cases b
    · exact .single ['a', 'l', 's', 'e'] rfl rfl
    · exact .single ['r', 'u', 'e'] rfl rfl
  | whole room small =>
    refine passedOver_of_lexes fun rest delimited => lexes_number ?_ delimited
    have digits (n : Nat) : (compact (.whole n)).toList = Nat.toDigits 10 n :=
      String.toList_ofList
    have alone := lexNumber_whole small delimited_nil
    rw [List.append_nil] at alone
    rw [digits, alone]
  | real room readsBack => exact passedOver_of_lexes fun rest => lexes_number readsBack
  | text room s => exact passedOver_of_lexes fun rest _ => lexes_quoted s rest
  | list _ ih => exact passedOver_list ih
  | record _ ih => exact passedOver_record ih

/-- **A document is read back.** What is readable and nested less deep than the reader goes is read
from its compact spelling as it is. -/
theorem read?_compact {depth room : Nat} {node : Node} (readable : Readable room node)
    (bound : room < depth) : read? depth (compact node) = some node := by
  obtain ⟨tokens, lexes, run⟩ := readable.passedOver depth ⟨[], .value⟩ [] (.inl rfl)
    (by simpa using bound) delimited_nil
  rw [List.append_nil] at lexes
  rw [read?, lexes.lex]
  simp only [Option.bind_eq_bind, Option.bind_some, run]
  rfl

end TagSchema.Json
