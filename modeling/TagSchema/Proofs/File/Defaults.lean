import TagSchema.Proofs.File.Canonical
import TagSchema.Proofs.Tag.Bursts
import TagSchema.Struct.Compare

/-!
# Filling in defaults

A reader can put defaults in the place of numbers that are not set, and does so on the way, member
by member. It might as well do it afterwards: it fails where the plain reader fails, in the same
way, and gives what that gives with the defaults filled in. Filling in once is enough, whatever the
defaults are, so a value with its defaults is the same after it was written and read again.
-/

namespace TagSchema

/-! ### Members that are not set -/

namespace LeafType

/-- Whether no component of a number is set: each is zero, or none is positive where the sign
counts. -/
def isUnset : (type : LeafType) → type.Value → Bool
  | .plain (.number shape rule), value =>
    (shape.components value).all (NumberShape.isUnset rule.defaultSign)
  | _, _ => false

/-- The default of a member that has one and is not set, and otherwise its value. -/
def filled (type : LeafType) (value : type.Value) : type.Value :=
  match type.default? with
  | some default => if type.isUnset value then default else value
  | none => value

/-- A number that has no items of its own is replaced as a whole. -/
theorem withDefault_eq_filled {type : LeafType} (h : type.isCounted = false) (value : type.Value) :
    type.withDefault value = type.filled value := by
  cases type with
  | dependency | blob => rfl
  | plain type =>
    cases type with
    | enum | bitfield | index | tagId | tagString | fourCC | padding => rfl
    | number shape rule =>
      have whole : shape.withDefault rule.defaultSign (rule.default.map (·.toFloat)) value =
          if (rule.default.map (·.toFloat)).isEmpty ||
            !(shape.components value).all (NumberShape.isUnset rule.defaultSign) then value
          else shape.ofNumbers (rule.default.map (·.toFloat)) := by
        cases shape with
        | array => cases h
        | scalar | compound | bounds => rfl
      rw [withDefault, whole, filled, default?, isUnset, List.isEmpty_map]
      cases rule.default.isEmpty with
      | true => rfl
      | false => cases (shape.components value).all (NumberShape.isUnset rule.defaultSign) <;> rfl

/-- A default that was filled in is not filled in again. -/
theorem filled_filled (type : LeafType) (value : type.Value) :
    type.filled (type.filled value) = type.filled value := by
  unfold filled
  cases type.default? with
  | none => rfl
  | some default =>
    dsimp only
    split
    · exact ite_self _
    · rfl

/-- Without a default there is nothing to fill in. -/
theorem filled_eq_self {type : LeafType} (h : type.default? = none) (value : type.Value) :
    type.filled value = value := by
  rw [filled, h]

/-- Only numbers have defaults. -/
theorem exists_number_or_filled_eq_self (type : LeafType) :
    (∃ shape rule, type = .plain (.number shape rule)) ∨ ∀ value, type.filled value = value := by
  cases type with
  | dependency | blob => exact .inr fun _ => rfl
  | plain type =>
    cases type with
    | number shape rule => exact .inl ⟨shape, rule, rfl⟩
    | enum | bitfield | index | tagId | tagString | fourCC | padding => exact .inr fun _ => rfl

/-- Filling in defaults does not make a value too long. -/
theorem fits_filled {type : LeafType} {value : type.Value} (h : type.Fits value) :
    type.Fits (type.filled value) := by
  obtain ⟨shape, rule, rfl⟩ | same := type.exists_number_or_filled_eq_self
  · trivial
  · rwa [same]

/-- No reference has a default, so the paths stay as they are. -/
theorem paths_filled (type : LeafType) (value : type.Value) :
    type.paths (type.filled value) = type.paths value := by
  obtain ⟨shape, rule, rfl⟩ | same := type.exists_number_or_filled_eq_self
  · rfl
  · rw [same]

/-- Tag files keep numbers as they are. -/
theorem fileKept_filled (type : LeafType) (value : type.Value) :
    type.fileKept (type.filled value) = type.filled (type.fileKept value) := by
  obtain ⟨shape, rule, rfl⟩ | same := type.exists_number_or_filled_eq_self
  · rfl
  · rw [same, same]

end LeafType

/-! ### Values with their defaults -/

namespace Members

/-- The members, at every depth, with defaults in the place of what is not set. -/
def filled : (members : Members) → members.Value → members.Value
  | .nil, _ => ()
  | .leaf _ type rest, value => (type.filled value.1, rest.filled value.2)
  | .array _ _ _ _ element rest, value => (value.1.map element.filled, rest.filled value.2)

/-- At every depth, defaults are filled in once. -/
theorem filled_filled (members : Members) (value : members.Value) :
    members.filled (members.filled value) = members.filled value := by
  induction members with
  | nil => rfl
  | leaf traits type rest ih => exact Prod.ext (type.filled_filled value.1) (ih value.2)
  | array traits limits name title element rest ihElement ih =>
    refine Prod.ext ?_ (ih value.2)
    simp only [filled, List.map_map]
    exact List.map_congr_left fun item _ => ihElement item

end Members

/-! ### Readers with changed results -/

/-- One reader ends where another ends and fails when it fails, with the same error, but its results
are changed. -/
def Relays {α β : Type} (change : α → β) (m : Reading α) (m' : Reading β) : Prop :=
  ∀ cursor, outcome m' cursor = ((outcome m cursor).1.map change, (outcome m cursor).2)

namespace Relays

variable {α β γ δ : Type} {change : α → β} {m : Reading α} {m' : Reading β}

theorem refl (m : Reading α) : Relays id m m := by
  intro cursor
  rcases outcome m cursor with ⟨_ | _, _⟩ <;> rfl

/-- What is done without reading relays the change that is made to it. -/
theorem pure (change : α → β) (a : α) : Relays change (Pure.pure a) (Pure.pure (change a)) :=
  fun _ => rfl

/-- Readings relay a change one after the other. -/
theorem bind (h : Relays change m m') {change' : γ → δ} {f : α → Reading γ} {f' : β → Reading δ}
    (hf : ∀ a, Relays change' (f a) (f' (change a))) : Relays change' (m >>= f) (m' >>= f') := by
  intro cursor
  rw [outcome_bind, outcome_bind, h]
  rcases outcome m cursor with ⟨e | a, cursor'⟩
  · rfl
  · exact hf a cursor'

/-- What errors are wrapped in is the same on both sides. -/
theorem adapt (wrap : TagError → TagError) (h : Relays change m m') :
    Relays change (ExceptT.adapt wrap m) (ExceptT.adapt wrap m') := by
  intro cursor
  rw [outcome_adapt, outcome_adapt, h]
  rcases outcome m cursor with ⟨_ | _, _⟩ <;> rfl

variable {element : Bytes → Reading α} {element' : Bytes → Reading β}

/-- Elements relay a change one by one. -/
theorem elements (site : Site) (size : Nat)
    (h : ∀ fixed, Relays change (element fixed) (element' fixed)) (index count : Nat)
    (fixed : Bytes) :
    Relays (List.map change) (Cursor.readElements site size element index count fixed)
      (Cursor.readElements site size element' index count fixed) := by
  induction count generalizing index fixed with
  | zero => exact .pure (List.map change) []
  | succ count ih =>
    refine ((h _).adapt _).bind fun first => ?_
    exact (ih _ _).bind fun rest => .pure (List.map change) (first :: rest)

/-- So an array relays it to each of its elements. -/
theorem array (site : Site) (count size : Nat)
    (h : ∀ fixed, Relays change (element fixed) (element' fixed)) :
    Relays (List.map change) (Cursor.readArray site count size element)
      (Cursor.readArray site count size element') := by
  unfold Cursor.readArray
  split_ifs
  · exact fun _ => rfl
  · exact (refl _).bind fun fixed => elements site size h 0 count fixed

end Relays

namespace Members

/-- Members are filled in wherever they are read. -/
theorem relays_readFile (owner : String) {members : Members}
    (h : members.isDefaultRegular = true) (stored : (members.layout .file).Value) :
    Relays members.filled (members.readFile false owner stored)
      (members.readFile true owner stored) := by
  induction members generalizing owner with
  | nil => exact .pure _ _
  | leaf traits type rest ih =>
    simp only [isDefaultRegular, Bool.and_eq_true, Bool.not_eq_true'] at h
    obtain ⟨⟨hwhole, -⟩, hrest⟩ := h
    refine (Relays.refl _).bind fun value => ?_
    refine (ih owner hrest stored.2).bind fun others => ?_
    simp only [Bool.false_eq_true, if_false, if_true, id, type.withDefault_eq_filled hwhole]
    exact .pure (leaf traits type rest).filled (value, others)
  | array traits limits name title element rest ihElement ih =>
    simp only [isDefaultRegular, Bool.and_eq_true] at h
    obtain ⟨helement, hrest⟩ := h
    refine (Relays.array _ _ _ fun fixed => ihElement name helement _).bind fun items => ?_
    refine (ih owner hrest stored.2).bind fun others => ?_
    cases traits.cacheOnly with
    | true => exact .pure _ _
    | false => exact .pure _ _

end Members

/-! ### Writing and reading again -/

namespace Members

/-- Filling in defaults leaves the lengths of arrays as they are, so a value fits as before. -/
theorem fits_filled {members : Members} {value : members.Value} (h : members.Fits value) :
    members.Fits (members.filled value) := by
  induction members with
  | nil => trivial
  | leaf traits type rest ih => exact ⟨fun hkept => LeafType.fits_filled (h.1 hkept), ih h.2⟩
  | array traits limits name title element rest ihElement ih =>
    refine ⟨fun hkept => ?_, ih h.2⟩
    obtain ⟨hlength, hitems⟩ := h.1 hkept
    refine ⟨(List.length_map _).trans_lt hlength, ?_⟩
    exact List.forall_mem_map.mpr fun item hitem => ihElement (hitems item hitem)

theorem paths_filled (members : Members) (value : members.Value) :
    members.paths (members.filled value) = members.paths value := by
  induction members with
  | nil => rfl
  | leaf traits type rest ih => simp only [paths, filled, type.paths_filled, ih]
  | array traits limits name title element rest ihElement ih =>
    simp only [paths, filled, List.flatMap_map, ihElement, ih]

/-- Members that files leave out have no defaults. -/
theorem filled_withoutAbsent {members : Members} (h : members.isDefaultRegular = true)
    (value : members.Value) :
    members.filled (members.withoutAbsent value) =
      members.withoutAbsent (members.filled value) := by
  induction members with
  | nil => rfl
  | leaf traits type rest ih =>
    simp only [isDefaultRegular, Bool.and_eq_true, Bool.or_eq_true, Bool.not_eq_true',
      Option.isNone_iff_eq_none] at h
    obtain ⟨⟨-, hnone⟩, hrest⟩ := h
    refine Prod.ext ?_ (ih hrest value.2)
    simp only [withoutAbsent, filled]
    cases habsent : traits.isAbsentFromFiles with
    | true => exact LeafType.filled_eq_self (hnone.resolve_left (by simp [habsent])) _
    | false => rfl
  | array traits limits name title element rest ihElement ih =>
    simp only [isDefaultRegular, Bool.and_eq_true] at h
    obtain ⟨helement, hrest⟩ := h
    refine Prod.ext ?_ (ih hrest value.2)
    simp only [withoutAbsent, filled]
    cases traits.isAbsentFromFiles with
    | true => rfl
    | false =>
      simp only [Bool.false_eq_true, if_false, List.map_map]
      exact List.map_congr_left fun item _ => ihElement helement item

/-- Defaults are kept by tag files. -/
theorem fileKept_filled {members : Members} (h : members.isDefaultRegular = true)
    (value : members.Value) :
    members.fileKept (members.filled value) = members.filled (members.fileKept value) := by
  induction members with
  | nil => rfl
  | leaf traits type rest ih =>
    simp only [isDefaultRegular, Bool.and_eq_true, Bool.or_eq_true, Bool.not_eq_true',
      Option.isNone_iff_eq_none] at h
    obtain ⟨⟨-, hnone⟩, hrest⟩ := h
    refine Prod.ext ?_ (ih hrest value.2)
    simp only [fileKept, filled]
    -- A member that files leave out has no default, so that filling does not touch it.
    cases habsent : traits.isAbsentFromFiles with
    | true => exact (LeafType.filled_eq_self (hnone.resolve_left (by simp [habsent])) _).symm
    | false => exact type.fileKept_filled value.1
  | array traits limits name title element rest ihElement ih =>
    simp only [isDefaultRegular, Bool.and_eq_true] at h
    obtain ⟨helement, hrest⟩ := h
    refine Prod.ext ?_ (ih hrest value.2)
    simp only [fileKept, filled]
    cases traits.isAbsentFromFiles with
    | true => rfl
    | false =>
      simp only [Bool.false_eq_true, if_false, List.map_map]
      exact List.map_congr_left fun item _ => ihElement helement item

/-- Readers leave members as they are read again, filled in or not. -/
theorem AsRead.filled {members : Members} (hregular : members.isDefaultRegular = true)
    {value : members.Value} (h : members.AsRead value) :
    members.AsRead (members.filled value) where
  fits := fits_filled h.fits
  clean := by
    rw [paths_filled]
    exact h.clean
  kept := by rw [fileKept_filled hregular, h.kept, filled_withoutAbsent hregular]

end Members

namespace FileHeader

/-- A header without defects for one class has none when any class will do. -/
theorem headerDefect?_none {header : Bytes} {tagClass : TagClass}
    (h : headerDefect? header (some tagClass) = none) : headerDefect? header none = none := by
  unfold headerDefect? at *
  generalize layout.decode header = fields at h ⊢
  obtain ⟨_, _, code, _, headerSize, _, _, _, found⟩ := fields
  dsimp only at h ⊢
  split at h
  · cases h
  · next marked =>
    rw [if_neg marked]
    split at h
    · cases h
    · next sized => rw [if_neg sized, Option.filter_none, Option.map_none]

/-- A header that is valid for a class is valid where none is expected. -/
theorem validate_none {file body : Bytes} {tagClass : TagClass}
    (h : validate file (some tagClass) = .ok body) : validate file none = .ok body := by
  obtain ⟨whole, fine, rfl, stored⟩ := validate_eq_ok h
  rw [← List.take_append_drop size file, validate_append whole, headerDefect?_none fine, stored]
  simp

end FileHeader

namespace StructType

/-- Reading with defaults is reading without, and then filling them in, at every depth. -/
theorem relays_readFile {type : StructType} (h : type.members.isDefaultRegular = true) :
    Relays type.members.filled (type.readFile false) (type.readFile true) :=
  (Relays.refl _).bind fun _ => type.members.relays_readFile type.name h _

/-- A file is parsed by its header, then its value, and then there is nothing left of it. -/
theorem parseFile_eq (type : StructType) (expected : Option TagClass) (postprocess : Bool)
    (file : Bytes) :
    type.parseFile expected postprocess file = (FileHeader.validate file expected).bind fun body =>
      (type.readBody postprocess body).1.bind fun value =>
        (type.readBody postprocess body).2.finish.bind fun _ => .ok value := rfl

/-- A file is parsed without defaults, and then they are filled in. -/
theorem parseFile_true {type : StructType} (h : type.members.isDefaultRegular = true)
    (expected : Option TagClass) (file : Bytes) :
    type.parseFile expected true file =
      (type.parseFile expected false file).map type.members.filled := by
  have hread (body : Bytes) : type.readBody true body =
      ((type.readBody false body).1.map type.members.filled, (type.readBody false body).2) :=
    type.relays_readFile h { rest := body }
  rw [parseFile_eq, parseFile_eq]
  cases FileHeader.validate file expected with
  | error e => rfl
  | ok body =>
    simp only [Except.bind, hread]
    rcases type.readBody false body with ⟨e | value, cursor⟩
    · rfl
    · dsimp only [Except.map]
      cases cursor.finish <;> rfl

/-- What a file is parsed as was read from its body. -/
theorem exists_readsAs_of_parseFile {type : StructType} {expected : Option TagClass} {file : Bytes}
    {value : type.Value} (h : type.parseFile expected false file = .ok value) :
    ∃ body, type.ReadsAs body value := by
  obtain ⟨body, -, hbody⟩ := Except.bind_eq_ok h
  obtain ⟨result, hresult, hrest⟩ := Except.bind_eq_ok hbody
  obtain ⟨_, hfinish, hvalue⟩ := Except.bind_eq_ok hrest
  cases hvalue
  exact ⟨body, _, Prod.ext hresult rfl, hfinish⟩

/-- A value that is as readers leave it is parsed back from its file, but for what files leave
out. -/
theorem parseFile_wrap_of_asRead {type : StructType} (hregular : type.members.isFileRegular = true)
    {value : type.Value} (h : type.members.AsRead value) (tagClass : TagClass) :
    ∃ file, type.generateFile tagClass value = .ok file ∧
      ∀ expected, expected = none ∨ expected = some tagClass →
        type.parseFile expected false file = .ok (type.members.withoutAbsent value) := by
  obtain ⟨body, hbody⟩ : ∃ body, body = (type.members.layout .file).encode
    (type.members.fileHead value) ++ type.members.fileTail value := ⟨_, rfl⟩
  have hread : type.readBody false body =
      (.ok (type.members.withoutAbsent value), { position := body.length, rest := [] }) := by
    have hreads := (type.reads_readFile hregular h.fits 0 []).1 h.clean
    rw [h.kept, List.append_nil, Nat.zero_add, ← hbody] at hreads
    exact hreads
  refine ⟨FileHeader.wrap tagClass body, ?_, fun expected hexpected => ?_⟩
  · rw [generateFile, type.generateBody_eq h.fits, ← hbody]
    rfl
  · have hvalidate : FileHeader.validate (FileHeader.wrap tagClass body) expected = .ok body := by
      obtain rfl | rfl := hexpected
      · exact FileHeader.validate_none (FileHeader.validate_wrap tagClass body)
      · exact FileHeader.validate_wrap tagClass body
    exact ReadsAs.parseFile_eq ⟨_, hread, rfl⟩ hvalidate

end StructType

/-- **Defaults are filled in afterwards.** For each type of the catalog, a file is parsed with
defaults as it is parsed without them, or fails in the same way, and then every member that has a
default and is not set gets it, at every depth. Doing this twice is doing it once. So the value of a
file with its defaults has a file of its own, which is parsed with defaults as the same value but
for the members that files leave out. -/
theorem parseFile_defaults (type : StructType) (htype : type ∈ Catalog.types) :
    (∀ expected file, type.parseFile expected true file =
      (type.parseFile expected false file).map type.members.filled) ∧
    (∀ value, type.members.filled (type.members.filled value) = type.members.filled value) ∧
    ∀ expected file value, type.parseFile expected true file = .ok value → ∀ tagClass,
      ∃ file', type.generateFile tagClass value = .ok file' ∧
        ∀ expected', expected' = none ∨ expected' = some tagClass →
          type.parseFile expected' true file' = .ok (type.members.withoutAbsent value) := by
  have hregular := Catalog.isDefaultRegular_of_mem htype
  refine ⟨fun expected file => type.parseFile_true hregular expected file,
    type.members.filled_filled, fun expected file value hvalue tagClass => ?_⟩
  rw [type.parseFile_true hregular, Except.map_eq_ok_iff] at hvalue
  obtain ⟨raw, hraw, rfl⟩ := hvalue
  obtain ⟨body, hbody⟩ := StructType.exists_readsAs_of_parseFile hraw
  have hread : type.members.AsRead (type.members.filled raw) :=
    (hbody.inv (Catalog.leavesOut_of_mem htype)).2.filled hregular
  obtain ⟨file', hgenerate, hparse⟩ :=
    StructType.parseFile_wrap_of_asRead (Catalog.isFileRegular_of_mem htype) hread tagClass
  refine ⟨file', hgenerate, fun expected' hexpected => ?_⟩
  rw [type.parseFile_true hregular, hparse expected' hexpected]
  exact congrArg Except.ok (by
    rw [Members.filled_withoutAbsent hregular, Members.filled_filled])

open Catalog in
/-- The jeep has members that are not set and have defaults. -/
theorem parseFile_defaults_jeep :
    vehicle ∈ types ∧ ∃ raw file,
      vehicle.parseFile none false (FileHeader.wrap ⟨0x76656869⟩ jeep) = .ok raw ∧
      vehicle.parseFile none true (FileHeader.wrap ⟨0x76656869⟩ jeep) =
        .ok (vehicle.members.filled raw) ∧
      (vehicle.compare {} raw (vehicle.members.filled raw)).same = false ∧
      vehicle.generateFile ⟨0x76656869⟩ (vehicle.members.filled raw) = .ok file ∧
      vehicle.parseFile (some ⟨0x76656869⟩) true file =
        .ok (vehicle.members.withoutAbsent (vehicle.members.filled raw)) := by
  obtain ⟨-, -, raw, hread⟩ := jeep_readsAs
  have hdiffer : ∀ raw ∈ (vehicle.readBody false jeep).1.toOption,
      (vehicle.compare {} raw (vehicle.members.filled raw)).same = false := by
    decide +kernel
  have hbody : raw ∈ (vehicle.readBody false jeep).1.toOption := by
    obtain ⟨cursor, hresult, -⟩ := hread
    rw [hresult]
    rfl
  have hraw : vehicle.parseFile none false (FileHeader.wrap ⟨0x76656869⟩ jeep) = .ok raw :=
    hread.parseFile_eq (FileHeader.validate_none (FileHeader.validate_wrap _ _))
  obtain ⟨hseparate, -, hagain⟩ := parseFile_defaults vehicle vehicle_mem
  have hfilled := hseparate none (FileHeader.wrap ⟨0x76656869⟩ jeep)
  rw [hraw] at hfilled
  obtain ⟨file, hgenerate, hparse⟩ := hagain _ _ _ hfilled ⟨0x76656869⟩
  exact ⟨vehicle_mem, raw, file, hraw, hfilled, hdiffer raw hbody, hgenerate,
    hparse _ (.inr rfl)⟩

end TagSchema
