import Mathlib.Data.List.Forall2
import Mathlib.Data.List.Nodup
import TagSchema.Schema.Record

/-!
# Entries of records

A record is written entry by entry, and an entry whose value is the default of its key may be left
out. The reader finds under a key what was written there, and where nothing was written it takes the
default: the value of the entry either way. `Finds` is this for one entry; what a reader makes of an
entry follows from it by the kind of the entry alone.
-/

namespace TagSchema

/-! ### Values -/

namespace Node

theorem nullable?_of_ne {α : Type} {read : Node → Option α} {node : Node} (h : node ≠ .null) :
    nullable? read node = (read node).map some := by
  cases node with
  | null => exact absurd rfl h
  | _ => rfl

/-- A natural number below the limit is read as it was written. -/
theorem natBelow?_ofNat {limit n : Nat} (h : n < limit) :
    natBelow? limit (.ofNat n) = some n :=
  if_pos ⟨Int.natCast_nonneg n, Int.ofNat_lt.mpr h⟩

/-- A list is read item by item, whatever form each of them was written in. -/
theorem list?_of_forall₂ {α : Type} {read : Node → Option α} {values : List α} {nodes : List Node}
    (h : List.Forall₂ (fun value node => read node = some value) values nodes) :
    list? read (.list nodes) = some values := by
  change nodes.mapM read = some values
  induction h with
  | nil => rfl
  | cons first _ ih =>
    rw [List.mapM_cons, first, ih]
    rfl

theorem list?_ofList {α : Type} {read : Node → Option α} {write : α → Node} {values : List α}
    (back : ∀ value ∈ values, read (write value) = some value) :
    list? read (.ofList write values) = some values := by
  refine list?_of_forall₂ ?_
  rw [List.forall₂_map_right_iff, List.forall₂_same]
  exact back

end Node

/-! ### Entries -/

/-- An entry of a record: its key, its value, and the default of the key if it has one. -/
structure RecordEntry where
  key : String
  value : Node
  default? : Option Node

namespace RecordEntry

open RecordReader

/-- An entry that must be present. -/
def needed (key : String) (value : Node) : RecordEntry := ⟨key, value, none⟩

/-- An entry that is null by default. -/
def nullable {α : Type} (key : String) (write : α → Node) (value : Option α) : RecordEntry :=
  ⟨key, .ofOption write value, some .null⟩

/-- A flag that is off by default. -/
def switch (key : String) (value : Bool) : RecordEntry := ⟨key, .bool value, some (.bool false)⟩

/-- A list of texts that is empty by default. -/
def texts (key : String) (values : List String) : RecordEntry :=
  ⟨key, .ofList .text values, some (.list [])⟩

/-- An entry as it stands in a record. -/
def written (entry : RecordEntry) : String × Node := (entry.key, entry.value)

/-- The second record is the first without some entries whose values are the defaults of their
keys. -/
inductive LeavesOut : List RecordEntry → List (String × Node) → Prop
  | nil : LeavesOut [] []
  | keep (entry : RecordEntry) {all : List RecordEntry} {kept : List (String × Node)}
    (others : LeavesOut all kept) : LeavesOut (entry :: all) (entry.written :: kept)
  | leave {entry : RecordEntry} (default : entry.default? = some entry.value)
    {all : List RecordEntry} {kept : List (String × Node)} (others : LeavesOut all kept) :
    LeavesOut (entry :: all) kept

/-- An entry may be written although it is the default. -/
theorem LeavesOut.refl (all : List RecordEntry) : LeavesOut all (all.map written) := by
  induction all with
  | nil => exact .nil
  | cons entry all ih => exact .keep entry ih

/-- What is kept stands in the order of the entries. -/
theorem LeavesOut.sublist {all : List RecordEntry} {kept : List (String × Node)}
    (h : LeavesOut all kept) : List.Sublist kept (all.map written) := by
  induction h with
  | nil => exact .slnil
  | keep entry _ ih => exact ih.cons_cons entry.written
  | leave _ _ ih => exact ih.cons _

/-- So do the keys that are kept. -/
theorem LeavesOut.keys {all : List RecordEntry} {kept : List (String × Node)}
    (h : LeavesOut all kept) : List.Sublist (kept.map Prod.fst) (all.map key) := by
  have sublist := h.sublist.map Prod.fst
  rwa [List.map_map] at sublist

/-- Whether the value of an entry is the default of its key. Defaults are nulls, flags and empty
lists. -/
def isDefault (entry : RecordEntry) : Bool :=
  match entry.default?, entry.value with
  | some .null, .null | some (.bool false), .bool false | some (.list []), .list [] => true
  | _, _ => false

/-- A record with no entry whose value is a default. -/
def shortest (all : List RecordEntry) : List (String × Node) :=
  (all.filter fun entry => !entry.isDefault).map written

/-- Only an entry whose value is its default may be left out, so leaving it out loses nothing. -/
theorem default?_of_isDefault {entry : RecordEntry} (h : entry.isDefault = true) :
    entry.default? = some entry.value := by
  obtain ⟨key, value, default⟩ := entry
  dsimp only [isDefault] at h ⊢
  split at h
  iterate 3 rfl
  cases h

/-- Leaving out every default is one of the ways to leave defaults out. -/
theorem leavesOut_shortest (all : List RecordEntry) : LeavesOut all (shortest all) := by
  induction all with
  | nil => exact .nil
  | cons entry all ih =>
    rw [shortest, List.filter_cons]
    split
    · exact .keep entry ih
    · rename_i default
      refine .leave (default?_of_isDefault ?_) ih
      rwa [Bool.not_eq_true', Bool.not_eq_false] at default

/-! ### What is found -/

/-- The value of an entry stands under its key, or nothing does and the value is the default. -/
def Finds (found : Entries) (entry : RecordEntry) : Prop :=
  found.lookup entry.key = some entry.value ∨
    (found.lookup entry.key = none ∧ entry.default? = some entry.value)

/-- A key that was not found has no value. -/
theorem lookup_eq_none {found : Entries} {key : String} (h : key ∉ found.map Prod.fst) :
    found.lookup key = none := by
  rw [List.lookup_eq_none_iff]
  rintro ⟨other, value⟩ mem
  rw [bne_iff_ne]
  rintro rfl
  exact h (List.mem_map_of_mem mem)

/-- Among distinct keys the first entry of a key is the only one. -/
theorem lookup_eq_some {found : Entries} {key : String} {value : Node}
    (distinct : (found.map Prod.fst).Nodup) (mem : (key, value) ∈ found) :
    found.lookup key = some value := by
  obtain ⟨before, after, rfl⟩ := List.append_of_mem mem
  rw [List.map_append, List.map_cons, List.nodup_middle, List.nodup_cons, List.mem_append,
    not_or] at distinct
  rw [List.lookup_append, lookup_eq_none distinct.1.1, List.lookup_cons_self]
  rfl

section
variable {all : List RecordEntry} {kept : List (String × Node)}

/-- An entry is kept, or else its key does not occur at all and its value is the default. -/
theorem LeavesOut.mem_or (h : LeavesOut all kept) (distinct : (all.map key).Nodup) :
    ∀ entry ∈ all, entry.written ∈ kept ∨
      (entry.key ∉ kept.map Prod.fst ∧ entry.default? = some entry.value) := by
  induction h with
  | nil =>
    intro entry mem
    cases mem
  | @keep first all kept _ ih =>
    rw [List.map_cons, List.nodup_cons] at distinct
    rintro entry (_ | ⟨_, mem⟩)
    · exact .inl List.mem_cons_self
    obtain stands | ⟨absent, default⟩ := ih distinct.2 entry mem
    · exact .inl (List.mem_cons_of_mem _ stands)
    · refine .inr ⟨?_, default⟩
      rw [List.map_cons, List.mem_cons, not_or]
      -- A key that was left out cannot be found under another entry, since keys are distinct.
      refine ⟨?_, absent⟩
      rintro (same : entry.key = first.key)
      exact distinct.1 (same ▸ List.mem_map_of_mem mem)
  | @leave first default all kept others ih =>
    rw [List.map_cons, List.nodup_cons] at distinct
    rintro entry (_ | ⟨_, mem⟩)
    · exact .inr ⟨fun present => distinct.1 (others.keys.subset present), default⟩
    · exact ih distinct.2 entry mem

/-- What is collected with one more entry. -/
def collect (keys : List String) (found : Entries) (entry : String × Node) : Option Entries :=
  match meaning keys (.text entry.1) with
  | .declared name =>
    if (found.lookup name).isSome then none else some ((name, entry.2) :: found)
  | .unknown => some found
  | .invalid => none

/-- Entries of known and distinct keys are collected one in front of the other. -/
theorem foldlM_collect {keys : List String} (known : ∀ entry ∈ kept, entry.1 ∈ keys)
    (before : Entries) (apart : (kept.map Prod.fst ++ before.map Prod.fst).Nodup) :
    kept.foldlM (collect keys) before = some (kept.reverse ++ before) := by
  induction kept generalizing before with
  | nil => rfl
  | cons entry kept ih =>
    rw [List.forall_mem_cons] at known
    rw [List.map_cons, List.cons_append, List.nodup_cons, List.mem_append, not_or] at apart
    have first : collect keys before entry = some (entry :: before) := by
      rw [collect, meaning, if_pos known.1]
      simp only [lookup_eq_none apart.1.2]
      rfl
    rw [List.foldlM_cons, first, List.reverse_cons, List.append_assoc, List.singleton_append]
    refine ih known.2 (entry :: before) ?_
    rw [List.map_cons, List.nodup_middle, List.nodup_cons, List.mem_append, not_or]
    exact apart

/-- What the reader collects from a record with known and distinct keys is the record, backwards. -/
theorem entries?_record {keys : List String} (known : ∀ entry ∈ kept, entry.1 ∈ keys)
    (distinct : (kept.map Prod.fst).Nodup) :
    entries? keys (.record kept) = some kept.reverse := by
  have run := foldlM_collect known [] (by rwa [List.map_nil, List.append_nil])
  rw [List.append_nil] at run
  rw [Node.record, entries?, List.foldlM_map]
  exact run

/-- Every entry is found in what the reader collects from a record that leaves out defaults. -/
theorem LeavesOut.finds (h : LeavesOut all kept) (distinct : (all.map key).Nodup) :
    ∃ found, entries? (all.map key) (.record kept) = some found ∧
      ∀ entry ∈ all, Finds found entry := by
  have once := h.keys.nodup distinct
  have backwards : (kept.reverse.map Prod.fst).Nodup := by
    rwa [List.map_reverse, List.nodup_reverse]
  -- A lookup does not see that the record is backwards, since no key comes twice.
  refine ⟨kept.reverse, entries?_record (fun entry mem => ?_) once, fun entry mem => ?_⟩
  · exact h.keys.subset (List.mem_map_of_mem mem)
  obtain stands | ⟨absent, default⟩ := h.mem_or distinct entry mem
  · exact .inl (lookup_eq_some backwards (List.mem_reverse.mpr stands))
  · refine .inr ⟨lookup_eq_none ?_, default⟩
    rwa [List.map_reverse, List.mem_reverse]

end

/-! ### What is read -/

/-- One reading after another. -/
theorem read_then {α β : Type} {first : Option α} {value : α} {others : α → Option β}
    {result : Option β} (h : first = some value) (rest : others value = result) :
    (first >>= others) = result := by
  rw [h]
  exact rest

section
variable {found : Entries} {key : String}

/-- An entry without a default is found, and read as it was written. -/
theorem Finds.required {α : Type} {value : Node} (h : Finds found (.needed key value))
    (read : Node → Option α) : required found key read = read value := by
  obtain present | ⟨-, ⟨⟩⟩ := h
  exact congrArg (Option.bind · read) present

/-- An entry with a default is read as the value that it stands for, whether or not it was
written. -/
theorem Finds.withDefault {α : Type} {entry : RecordEntry} (h : Finds found entry)
    {read : Node → Option α} {default : α}
    (agrees : ∀ value ∈ entry.default?, read value = some default) :
    withDefault found entry.key read default = read entry.value := by
  obtain present | ⟨absent, same⟩ := h
  · rw [RecordReader.withDefault, present]
  · rw [RecordReader.withDefault, absent, agrees _ same]

/-- An entry that may be absent is read back, absence being written as nothing or as null. -/
theorem Finds.optional {α : Type} {write : α → Node} {value : Option α}
    (h : Finds found (.nullable key write value)) {read : Node → Option α}
    (back : ∀ x ∈ value, read (write x) = some x ∧ write x ≠ .null) :
    optional found key read = some value := by
  refine (h.withDefault ?_).trans ?_
  · rintro _ ⟨⟩
    rfl
  cases value with
  | none => rfl
  | some x =>
    obtain ⟨same, notNull⟩ := back x rfl
    change Node.nullable? read (write x) = some (some x)
    rw [Node.nullable?_of_ne notNull, same]
    rfl

theorem Finds.text {value : Option String} (h : Finds found (.nullable key .text value)) :
    RecordReader.optional found key Node.text? = some value :=
  h.optional fun _ _ => ⟨rfl, nofun⟩

theorem Finds.nat {value : Option Nat} (h : Finds found (.nullable key .ofNat value)) {limit : Nat}
    (below : ∀ n ∈ value, n < limit) :
    RecordReader.optional found key (Node.natBelow? limit) = some value :=
  h.optional fun n mem => ⟨Node.natBelow?_ofNat (below n mem), nofun⟩

theorem Finds.real {value : Option Binary64} (h : Finds found (.nullable key .real value)) :
    RecordReader.optional found key Node.real? = some value :=
  h.optional fun _ _ => ⟨rfl, nofun⟩

/-- A switch is read back: it is written only when it is on, and off when it is not found. -/
theorem Finds.flag {value : Bool} (h : Finds found (.switch key value)) :
    flag found key = some value := by
  refine h.withDefault ?_
  rintro _ ⟨⟩
  rfl

/-- A list of texts is read back, also when it was empty and not written. -/
theorem Finds.texts {values : List String} (h : Finds found (.texts key values)) :
    RecordReader.withDefault found key (Node.list? Node.text?) [] = some values := by
  refine (h.withDefault ?_).trans ?_
  · rintro _ ⟨⟩
    rfl
  exact Node.list?_ofList fun value _ => rfl

end

end RecordEntry

end TagSchema
