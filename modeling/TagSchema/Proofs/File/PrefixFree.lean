import TagSchema.Proofs.File.Canonical

/-!
# No accepted body begins another one

A reader never looks behind the bytes that it takes, and takes bytes only when it needs them. So an
action that succeeded does the same whatever follows the bytes that it has consumed, and when some
of these are cut off it asks for more than is left, before any other check can fail. Both facts hold
of each single step and of one action after another, hence of every reader of a struct.
-/

namespace TagSchema

/-- At the end of `length` bytes, more was asked for than was left. -/
def TagError.RunsOut (length : Nat) (e : TagError) : Prop :=
  ∃ what need position left,
    e.root = .outOfBounds (.cursor what need position left) ∧ left < need ∧
      position + left = length

/-- The action consumes exactly `data` and gives `result`, wherever the data stands and whatever
follows it. When there is only a part of the data, the action runs out of bytes. -/
structure Consumes {α : Type} (m : Reading α) (data : Bytes) (result : α) : Prop where
  followed : ∀ position rest,
    outcome m ⟨position, data ++ rest⟩ = (.ok result, ⟨position + data.length, rest⟩)
  truncated : ∀ position part missing, data = part ++ missing → missing ≠ [] →
    ∃ e cursor, outcome m ⟨position, part⟩ = (.error e, cursor) ∧
      e.RunsOut (position + part.length)

/-- Whatever the action accepts, it consumes just that. -/
def SelfDelimiting {α : Type} (m : Reading α) : Prop := Accepts m (Consumes m)

variable {α β : Type}

namespace Consumes

theorem pure (a : α) : Consumes (Pure.pure a) [] a where
  followed _ _ := rfl
  truncated _ _ _ h hne := absurd (List.append_eq_nil_iff.mp h.symm).2 hne

/-- Data that is cut off is cut off in its first part or in its second one. -/
theorem bind {m : Reading α} {f : α → Reading β} {first second : Bytes} {a : α} {b : β}
    (hm : Consumes m first a) (hf : Consumes (f a) second b) :
    Consumes (m >>= f) (first ++ second) b where
  followed position rest := by
    rw [List.append_assoc, List.length_append, ← Nat.add_assoc,
      outcome_bind_ok (hm.followed position (second ++ rest))]
    exact hf.followed _ rest
  truncated position part missing h hne := by
    rcases List.append_eq_append_iff.mp h with ⟨begun, rfl, hsecond⟩ | ⟨left, hfirst, rfl⟩
    · obtain ⟨e, cursor, he, hout⟩ :=
        hf.truncated (position + first.length) begun missing hsecond hne
      refine ⟨e, cursor, (outcome_bind_ok (hm.followed position begun)).trans he, ?_⟩
      rw [List.length_append, ← Nat.add_assoc]
      exact hout
    · by_cases hleft : left = []
      · -- The first part is just there, and all of the second one is missing.
        subst hleft
        rw [List.append_nil] at hfirst
        subst hfirst
        obtain ⟨e, cursor, he, hout⟩ :=
          hf.truncated (position + first.length) [] second rfl hne
        have hwhole := hm.followed position []
        rw [List.append_nil] at hwhole
        exact ⟨e, cursor, (outcome_bind_ok hwhole).trans he, hout⟩
      · obtain ⟨e, cursor, he, hout⟩ := hm.truncated position part left hfirst hleft
        exact ⟨e, cursor, outcome_bind_error he, hout⟩

/-- What runs out inside an element runs out. -/
theorem adapt {m : Reading α} {data : Bytes} {a : α} (activity : Activity) (site : Site)
    (index : Nat) (hm : Consumes m data a) :
    Consumes (ExceptT.adapt (.element activity site index) m) data a where
  followed position rest := outcome_adapt_ok (hm.followed position rest)
  truncated position part missing h hne := by
    obtain ⟨e, cursor, he, hout⟩ := hm.truncated position part missing h hne
    refine ⟨.element activity site index e, cursor, ?_, hout⟩
    rw [outcome_adapt, he]
    rfl

end Consumes

namespace SelfDelimiting

theorem pure (a : α) : SelfDelimiting (Pure.pure a : Reading α) := Accepts.pure (Consumes.pure a)

theorem bind {m : Reading α} {f : α → Reading β} (hm : SelfDelimiting m)
    (hf : ∀ a, SelfDelimiting (f a)) : SelfDelimiting (m >>= f) :=
  Accepts.bind hm fun _ a hfirst => (hf a).mono fun _ _ hsecond => hfirst.bind hsecond

theorem adapt {m : Reading α} (activity : Activity) (site : Site) (index : Nat)
    (hm : SelfDelimiting m) :
    SelfDelimiting (ExceptT.adapt (.element activity site index) m) :=
  (Accepts.adapt (.element activity site index) hm).mono fun _ _ h => h.adapt activity site index

/-- A computation that takes no bytes. -/
theorem ofExcept (r : Except TagError α) : SelfDelimiting (liftM r : Reading α) := by
  cases r with
  | ok a => exact pure a
  | error e =>
    intro cursor a cursor' hok
    cases hok

/-- An action that cannot succeed accepts nothing. -/
theorem throw_bind (e : TagError) (f : α → Reading β) :
    SelfDelimiting ((throw e : Reading α) >>= f) := by
  intro cursor a cursor' hok
  cases hok

end SelfDelimiting

/-! ### Operations of a cursor -/

namespace Cursor

/-- This is the only step that asks for bytes. -/
theorem consumes_take (what : String) {data : Bytes} {count : Nat} (h : data.length = count) :
    Consumes (take what count) data data where
  followed position rest := by
    subst h
    exact (reads_take what data position rest).1 trivial
  truncated position part missing hdata hne := by
    have hshort : part.length < count := by
      rw [← h, hdata, List.length_append]
      have := List.length_pos_iff.mpr hne
      omega
    refine ⟨.outOfBounds (.cursor what count position part.length), ⟨position, part⟩, ?_, ?_⟩
    · unfold take
      rw [outcome_bind_ok (outcome_get _), if_pos hshort]
      rfl
    · exact ⟨what, count, position, part.length, rfl, hshort, rfl⟩

theorem selfDelimiting_take (what : String) (count : Nat) : SelfDelimiting (take what count) := by
  refine (accepts_take what count).mono ?_
  rintro data bytes ⟨rfl, hlength⟩
  exact consumes_take what hlength

theorem selfDelimiting_dependency (site : Site) (default : Option TagClass) (tagClass : TagClass)
    (pathSize : Nat) : SelfDelimiting (readDependency site default tagClass pathSize) := by
  dsimp only [readDependency]
  split
  · exact .pure _
  · apply SelfDelimiting.bind (selfDelimiting_take _ _)
    intro bytes
    apply SelfDelimiting.bind (.ofExcept _)
    intro path
    exact .pure _

variable {size : Nat} {element : Bytes → Reading α}

theorem selfDelimiting_elements (site : Site) (h : ∀ fixed, SelfDelimiting (element fixed))
    (index count : Nat) (fixed : Bytes) :
    SelfDelimiting (readElements site size element index count fixed) := by
  induction count generalizing index fixed with
  | zero => exact .pure []
  | succ count ih =>
    apply SelfDelimiting.bind ((h _).adapt .parse site index)
    intro first
    apply SelfDelimiting.bind (ih _ _)
    intro rest
    exact .pure _

/-- The number of elements is known before any of their bytes is looked at. -/
theorem selfDelimiting_array (site : Site) (count : Nat)
    (h : ∀ fixed, SelfDelimiting (element fixed)) :
    SelfDelimiting (readArray site count size element) := by
  unfold readArray
  split
  · exact .throw_bind _ _
  · apply SelfDelimiting.bind (selfDelimiting_take _ _)
    intro fixed
    exact selfDelimiting_elements site h 0 count fixed

end Cursor

/-! ### Structs -/

theorem LeafType.selfDelimiting_readFile (order : ByteOrder) (site : Site) (type : LeafType)
    (stored : (type.layout order).Value) : SelfDelimiting (type.readFile order site stored) := by
  cases type with
  | plain type => exact .pure _
  | dependency classes nonNull => exact Cursor.selfDelimiting_dependency _ _ _ _
  | blob selector => exact Cursor.selfDelimiting_take _ _

/-- The handles are in the fixed part, so they tell how much variable data there is to come. -/
theorem Members.selfDelimiting_readFile (postprocess : Bool) (owner : String) (members : Members)
    (stored : (members.layout .file).Value) :
    SelfDelimiting (members.readFile postprocess owner stored) := by
  induction members generalizing owner with
  | nil => exact .pure ()
  | leaf traits type rest ih =>
    apply SelfDelimiting.bind (type.selfDelimiting_readFile _ _ _)
    intro value
    apply SelfDelimiting.bind (ih owner stored.2)
    intro others
    exact .pure _
  | array traits limits name title element rest ihElement ih =>
    apply SelfDelimiting.bind (Cursor.selfDelimiting_array _ _ fun fixed =>
      ihElement name ((element.layout .file).decode fixed))
    intro items
    apply SelfDelimiting.bind (ih owner stored.2)
    intro others
    exact .pure _

namespace StructType

theorem selfDelimiting_readFile (type : StructType) (postprocess : Bool) :
    SelfDelimiting (type.readFile postprocess) := by
  apply SelfDelimiting.bind (Cursor.selfDelimiting_take _ _)
  intro fixed
  exact type.members.selfDelimiting_readFile postprocess type.name _

/-- A file that was accepted has a body that was consumed as a whole. -/
theorem consumes_of_parseFile {type : StructType} {postprocess : Bool} {tagClass : TagClass}
    {body : Bytes} {value : type.Value}
    (h : type.parseFile (some tagClass) postprocess (FileHeader.wrap tagClass body) = .ok value) :
    Consumes (type.readFile postprocess) body value := by
  rw [type.parseFile_wrap] at h
  obtain ⟨result, hresult, hrest⟩ := Except.bind_eq_ok h
  obtain ⟨_, hfinish, hvalue⟩ := Except.bind_eq_ok hrest
  cases hvalue
  rcases hread : type.readBody postprocess body with ⟨_, cursor⟩
  rw [hread] at hresult hfinish
  cases hresult
  obtain ⟨data, hdata, hconsumes⟩ := type.selfDelimiting_readFile postprocess _ _ _ hread
  rw [Cursor.finish_eq_ok hfinish, List.append_nil] at hdata
  obtain rfl : body = data := hdata
  exact hconsumes

end StructType

/-- **Accepted bodies form a prefix-free set.** When the file of a body is accepted, that of a
strict prefix of the body fails because it runs out of bytes at its end, and that of an extension
fails because of the bytes left over, with the place where the body ended. -/
theorem parseFile_wrap_prefixFree (type : StructType) (postprocess : Bool) (tagClass : TagClass)
    {body : Bytes} {value : type.Value}
    (h : type.parseFile (some tagClass) postprocess (FileHeader.wrap tagClass body) = .ok value) :
    (∀ part, part <+: body → part ≠ body → ∃ e,
      type.parseFile (some tagClass) postprocess (FileHeader.wrap tagClass part) = .error e ∧
        e.RunsOut part.length) ∧
    ∀ more, more ≠ [] →
      type.parseFile (some tagClass) postprocess (FileHeader.wrap tagClass (body ++ more)) =
        .error (.invalidData (.leftOver body.length (body ++ more).length)) := by
  have hconsumes := StructType.consumes_of_parseFile h
  constructor
  · rintro part ⟨missing, rfl⟩ hne
    have hmissing : missing ≠ [] := by
      rintro rfl
      exact hne (List.append_nil part).symm
    obtain ⟨e, cursor, he, hout⟩ := hconsumes.truncated 0 part missing rfl hmissing
    have hread : type.readBody postprocess part = (.error e, cursor) := he
    rw [Nat.zero_add] at hout
    refine ⟨e, ?_, hout⟩
    rw [type.parseFile_wrap, hread]
    rfl
  · intro more hmore
    have hread : type.readBody postprocess (body ++ more) = _ := hconsumes.followed 0 more
    have hleft : more.isEmpty = false := by simpa using hmore
    rw [type.parseFile_wrap, hread, List.length_append]
    simp [Except.bind, Cursor.finish, hleft]

open Catalog in
/-- The file of the jeep is accepted, but not with its last path cut off before the terminator, nor
with one more byte. -/
theorem parseFile_wrap_prefixFree_jeep :
    (∃ value, vehicle.parseFile (some .none) false (FileHeader.wrap .none jeep) = .ok value) ∧
    (∃ e, vehicle.parseFile (some .none) false (FileHeader.wrap .none (jeep.take 138)) = .error e ∧
      e.RunsOut 138) ∧
    vehicle.parseFile (some .none) false (FileHeader.wrap .none (jeep ++ [0])) =
      .error (.invalidData (.leftOver 155 156)) := by
  obtain ⟨-, -, value, hvalue⟩ := jeep_readsAs
  have haccepted := hvalue.parseFile_eq (FileHeader.validate_wrap .none jeep)
  obtain ⟨htruncated, hextended⟩ := parseFile_wrap_prefixFree vehicle false .none haccepted
  have hpart := htruncated (jeep.take 138) (List.take_prefix ..) (by decide)
  exact ⟨⟨value, haccepted⟩, hpart, hextended [0] (by decide)⟩

end TagSchema
