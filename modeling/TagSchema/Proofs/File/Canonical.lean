import TagSchema.Proofs.File.Accepting
import TagSchema.Proofs.File.RoundTrip

/-!
# The canonical form of a tag file

Readers accept more than writers produce: flags that are not defined, words in the place of
pointers, padding that is not zero, data for members that files leave out. Writing what was read
gives a body without all this. It is read as the same value without those members, and that value is
written as the same body again.
-/

namespace TagSchema

/-! ### Without the members that files leave out -/

namespace Members

/-- The members, at every depth, with those that tag files leave out as if they were never set. -/
def withoutAbsent : (members : Members) → members.Value → members.Value
  | .nil, _ => ()
  | .leaf traits type rest, value =>
    (if traits.isAbsentFromFiles then type.zero else value.1, rest.withoutAbsent value.2)
  | .array traits _ _ _ element rest, value =>
    (if traits.isAbsentFromFiles then [] else value.1.map element.withoutAbsent,
      rest.withoutAbsent value.2)

theorem fits_withoutAbsent (members : Members) {value : members.Value} (h : members.Fits value) :
    members.Fits (members.withoutAbsent value) := by
  induction members with
  | nil => trivial
  | leaf traits type rest ih =>
    refine ⟨fun hkept => ?_, ih h.2⟩
    rw [withoutAbsent, hkept]
    exact h.1 hkept
  | array traits limits name title element rest ihElement ih =>
    refine ⟨fun hkept => ?_, ih h.2⟩
    obtain ⟨hlength, hitems⟩ := h.1 hkept
    rw [withoutAbsent, hkept]
    refine ⟨(List.length_map _).trans_lt hlength, ?_⟩
    exact List.forall_mem_map.mpr fun item hitem => ihElement (hitems item hitem)

theorem fileHead_withoutAbsent (members : Members) (value : members.Value) :
    members.fileHead (members.withoutAbsent value) = members.fileHead value := by
  induction members with
  | nil => rfl
  | leaf traits type rest ih =>
    simp only [withoutAbsent, fileHead, ih]
    split <;> rfl
  | array traits limits name title element rest ihElement ih =>
    simp only [withoutAbsent, fileHead, ih]
    split
    · rfl
    · rw [List.length_map]

theorem fileTail_withoutAbsent (members : Members) (value : members.Value) :
    members.fileTail (members.withoutAbsent value) = members.fileTail value := by
  induction members with
  | nil => rfl
  | leaf traits type rest ih =>
    simp only [withoutAbsent, fileTail, ih]
    split <;> rfl
  | array traits limits name title element rest ihElement ih =>
    simp only [withoutAbsent, fileTail, ih]
    split
    · rfl
    · simp only [List.flatMap_map, fileHead_withoutAbsent, ihElement]

end Members

/-! ### Arrays that are dropped -/

namespace Members

/-- How many elements the handles of the arrays with the given names promise. -/
def promised (names : List String) : (members : Members) → (members.layout .file).Value → Nat
  | .nil, _ => 0
  | .leaf _ _ rest, stored => rest.promised names stored.2
  | .array traits _ _ _ _ rest, stored =>
    (if traits.identifier ∈ names then
      (ArrayHandle.load (traits.orderIn .file) stored.1).count.toNat else 0) +
    rest.promised names stored.2

theorem promised_nil (members : Members) (stored : (members.layout .file).Value) :
    members.promised [] stored = 0 := by
  induction members with
  | nil => rfl
  | leaf traits type rest ih => exact ih stored.2
  | array traits limits name title element rest ihElement ih =>
    simp [promised, ih]

end Members

/-! ### What was read -/

namespace LeafType

theorem fileTail_eq_nil {type : LeafType} (h : type.isPlain = true) (value : type.Value) :
    type.fileTail value = [] := by
  cases type with
  | plain => rfl
  | dependency | blob => cases h

/-- The member is as readers leave it: it can be written and read, and is then the same. -/
structure AsRead (type : LeafType) (value : type.Value) : Prop where
  fits : type.Fits value
  clean : ∀ path ∈ type.paths value, 0 ∉ Text.utf8 path
  kept : type.fileKept value = value

/-- A member has consumed as much as its variable data takes. -/
theorem accepts_readFile (order : ByteOrder) (site : Site) (type : LeafType)
    (stored : (type.layout order).Value) :
    Accepts (type.readFile order site stored) fun data value =>
      data.length = (type.fileTail value).length ∧ type.AsRead value := by
  cases type with
  | plain type =>
    exact Accepts.pure ⟨rfl, trivial, by simp [paths], type.kept_load order stored⟩
  | dependency classes nonNull =>
    refine (Cursor.accepts_dependency site _ _ _).mono fun data d h => ?_
    refine ⟨by rw [h.data]; rfl, ?_, ?_, ?_⟩
    · exact h.pathSize.trans_lt (UInt32.toNat_lt_size _)
    · intro path hpath
      obtain rfl := List.mem_singleton.mp hpath
      exact h.clean
    · obtain ⟨tagClass, path, id⟩ := d
      obtain rfl : tagClass = _ := h.tagClass
      obtain rfl : id = _ := h.id
      exact congrArg (fun tagClass => ({ tagClass, path } : Dependency))
        (Dependency.restoreClass_restoreClass _ _)
  | blob selector =>
    refine (Cursor.accepts_blob site _).mono fun data bytes h => ?_
    refine ⟨by rw [h.1]; rfl, ?_, by simp [paths], rfl⟩
    exact h.2.trans_lt (UInt32.toNat_lt_size _)

end LeafType

namespace Members

/-- Flat members have no variable data. -/
theorem accepts_readFile_of_isFlat (owner : String) {members : Members} (h : members.isFlat = true)
    (stored : (members.layout .file).Value) :
    Accepts (members.readFile false owner stored) fun data _ => data = [] := by
  induction members with
  | nil => exact Accepts.pure rfl
  | leaf traits type rest ih =>
    rw [isFlat, Bool.and_eq_true] at h
    cases type with
    | plain type => exact (ih h.2 stored.2).map fun data others hdata => hdata
    | dependency | blob => cases h.1
  | array => cases h

/-- The members are as readers leave them: they can be written and read, and are then the same but
for those that files leave out. -/
structure AsRead (members : Members) (value : members.Value) : Prop where
  fits : members.Fits value
  clean : ∀ path ∈ members.paths value, 0 ∉ Text.utf8 path
  kept : members.fileKept value = members.withoutAbsent value

theorem AsRead.leaf {traits : FieldTraits} {type : LeafType} {rest : Members} {first : type.Value}
    {others : rest.Value} (hfirst : type.AsRead first) (hothers : rest.AsRead others) :
    (Members.leaf traits type rest).AsRead (first, others) where
  fits := ⟨fun _ => hfirst.fits, hothers.fits⟩
  clean := List.forall_mem_append.mpr ⟨hfirst.clean, hothers.clean⟩
  kept := congrArg₂ Prod.mk (by rw [hfirst.kept]) hothers.kept

theorem AsRead.array {traits : FieldTraits} {limits : ArrayLimits} {name : String}
    {title : Option String} {element rest : Members} {items : List element.Value}
    {others : rest.Value} (hlength : items.length < UInt32.size)
    (hitems : ∀ item ∈ items, element.AsRead item) (hothers : rest.AsRead others) :
    (Members.array traits limits name title element rest).AsRead (items, others) where
  fits := ⟨fun _ => ⟨hlength, fun item hitem => (hitems item hitem).fits⟩, hothers.fits⟩
  clean := by
    refine List.forall_mem_append.mpr ⟨?_, hothers.clean⟩
    exact List.forall_mem_flatMap.mpr fun item hitem => (hitems item hitem).clean
  kept := by
    have hmap := List.map_congr_left fun item hitem => (hitems item hitem).kept
    exact congrArg₂ Prod.mk (by rw [hmap]) hothers.kept

/-- Flat elements have consumed their fixed parts only. -/
theorem accepts_flatArray (site : Site) (name : String) {element : Members}
    (h : element.isFlat = true) (count : Nat) :
    Accepts (Cursor.readArray site count (element.layout .file).size fun fixed =>
        element.readFile false name ((element.layout .file).decode fixed))
      fun data _ => data.length = (element.layout .file).size * count := by
  have hitem (fixed : Bytes) :
      Accepts (element.readFile false name ((element.layout .file).decode fixed))
        fun data _ => data.length = List.length ([] : Bytes) ∧ True :=
    (accepts_readFile_of_isFlat name h _).mono fun data item hdata =>
      ⟨congrArg List.length hdata, trivial⟩
  refine (Cursor.accepts_array (fun _ => []) (fun _ => True) site count hitem).mono ?_
  rintro data items ⟨-, hdata, -⟩
  rw [Nat.mul_comm]
  simpa using hdata

/-- Elements have consumed their heads and their tails, if each of them has consumed its tail. -/
theorem accepts_keptArray (site : Site) (name : String) {element : Members}
    (h : ∀ stored, Accepts (element.readFile false name stored) fun data item =>
      data.length = (element.fileTail item).length ∧ element.AsRead item) (count : Nat) :
    Accepts (Cursor.readArray site count (element.layout .file).size fun fixed =>
        element.readFile false name ((element.layout .file).decode fixed))
      fun data items => items.length = count ∧
        data.length =
          (items.flatMap (fun item => (element.layout .file).encode (element.fileHead item)) ++
            items.flatMap element.fileTail).length ∧
        ∀ item ∈ items, element.AsRead item := by
  refine (Cursor.accepts_array element.fileTail element.AsRead site count fun _ => h _).mono ?_
  rintro data items ⟨rfl, hdata, hitems⟩
  have hheads := length_flatMap_of_length_eq
    (fun item => Layout.length_encode (element.layout .file) (element.fileHead item)) items
  exact ⟨rfl, by rw [List.length_append, hheads, hdata], hitems⟩

/-- Members have consumed as much as their variable data takes and what files leave out took. -/
theorem accepts_readFile (owner : String) {names : List String} {size : Nat} {members : Members}
    (h : members.leavesOut names size = true) (stored : (members.layout .file).Value) :
    Accepts (members.readFile false owner stored) fun data value =>
      data.length = (members.fileTail value).length + size * members.promised names stored ∧
        members.AsRead value := by
  induction members generalizing owner names with
  | nil => exact Accepts.pure ⟨rfl, trivial, by simp [paths], rfl⟩
  | leaf traits type rest ih =>
    simp only [leavesOut, Bool.and_eq_true, Bool.or_eq_true, Bool.not_eq_true'] at h
    obtain ⟨hplain, hrest⟩ := h
    simp only [readFile, Bool.false_eq_true, reduceIte]
    refine (type.accepts_readFile _ _ _).bind ?_
    rintro first value ⟨hfirst, hvalue⟩
    refine (ih owner hrest stored.2).map ?_
    rintro second others ⟨hsecond, hothers⟩
    refine ⟨?_, .leaf hvalue hothers⟩
    have htail : (if traits.isAbsentFromFiles then [] else type.fileTail value) =
        type.fileTail value :=
      ite_eq_right_iff.mpr fun habsent =>
        (LeafType.fileTail_eq_nil (hplain.resolve_left (by simp [habsent])) value).symm
    simp only [fileTail, promised, htail, List.length_append]
    omega
  | array traits limits name title element rest ihElement ih =>
    simp only [leavesOut, Bool.and_eq_true] at h
    obtain ⟨hfirst, hrest⟩ := h
    simp only [readFile]
    split at hfirst
    next hname =>
      -- The elements take space, but the value has none of them.
      simp only [Bool.and_eq_true, decide_eq_true_eq] at hfirst
      obtain ⟨⟨hcache, hflat⟩, rfl⟩ := hfirst
      have habsent : traits.isAbsentFromFiles = true := by
        rw [FieldTraits.isAbsentFromFiles, hcache, Bool.true_or]
      refine (accepts_flatArray _ name hflat _).bind ?_
      intro first items hfirst
      refine (ih owner hrest stored.2).map ?_
      rintro second others ⟨hsecond, hothers⟩
      rw [if_pos hcache]
      refine ⟨?_, .array (by simp [UInt32.size]) (by simp) hothers⟩
      simp only [fileTail, promised, habsent, hname, reduceIte, List.length_append,
        List.nil_append, hfirst, hsecond, Nat.mul_add]
      omega
    next hname =>
      simp only [Bool.and_eq_true, Bool.not_eq_true'] at hfirst
      obtain ⟨hkept, helement⟩ := hfirst
      have hitem := ihElement name helement
      simp only [promised_nil, Nat.mul_zero, Nat.add_zero] at hitem
      refine (accepts_keptArray _ name hitem _).bind ?_
      rintro first items ⟨hcount, hfirst, hitems⟩
      refine (ih owner hrest stored.2).map ?_
      rintro second others ⟨hsecond, hothers⟩
      rw [FieldTraits.cacheOnly_eq_false hkept, if_neg Bool.false_ne_true]
      have hword : items.length < UInt32.size := by
        rw [hcount]
        exact UInt32.toNat_lt_size _
      refine ⟨?_, .array hword hitems hothers⟩
      simp only [fileTail, promised, hkept, hname, Bool.false_eq_true, reduceIte, hfirst, hsecond,
        List.length_append, Nat.zero_add]
      omega

end Members

namespace StructType

/-- The body is read up to its end and gives the value. -/
def ReadsAs (type : StructType) (body : Bytes) (value : type.Value) : Prop :=
  ∃ cursor, type.readBody false body = (.ok value, cursor) ∧ cursor.finish = .ok ()

/-- A file with such a body is parsed as the value. -/
theorem ReadsAs.parseFile_eq {type : StructType} {body file : Bytes} {value : type.Value}
    {expected : Option TagClass} (h : type.ReadsAs body value)
    (hvalid : FileHeader.validate file expected = .ok body) :
    type.parseFile expected false file = .ok value := by
  obtain ⟨cursor, hread, hfinish⟩ := h
  unfold parseFile
  rw [hvalid]
  change (type.readBody false body).1.bind
    (fun value => (type.readBody false body).2.finish.bind fun _ => .ok value) = _
  rw [hread]
  dsimp only [Except.bind]
  rw [hfinish]

/-- How many elements the arrays with the given names promise in the fixed part of a body. -/
def promised (type : StructType) (names : List String) (body : Bytes) : Nat :=
  type.members.promised names ((type.layout .file).decode (body.take (type.size .file)))

theorem promised_nil (type : StructType) (body : Bytes) : type.promised [] body = 0 :=
  type.members.promised_nil _

/-- A body that was read is as long as the canonical one and what files leave out took. -/
theorem ReadsAs.inv {type : StructType} {body : Bytes} {value : type.Value} {names : List String}
    {size : Nat} (h : type.ReadsAs body value) (hnames : type.members.leavesOut names size = true) :
    body.length = type.size .file + (type.members.fileTail value).length +
      size * type.promised names body ∧ type.members.AsRead value := by
  obtain ⟨cursor, hread, hfinish⟩ := h
  have hwhole : Accepts (type.readFile false) fun data value =>
      data.length = type.size .file + (type.members.fileTail value).length +
        size * type.promised names data ∧ type.members.AsRead value := by
    refine (Cursor.accepts_take _ _).bind ?_
    rintro fixed _ ⟨rfl, hfixed⟩
    refine (type.members.accepts_readFile type.name hnames _).mono ?_
    rintro data value ⟨hdata, hvalue⟩
    have hsize : fixed.length = type.size .file := hfixed
    refine ⟨?_, hvalue⟩
    rw [promised, ← hsize, List.take_left, List.length_append, hdata, Nat.add_assoc]
  obtain ⟨data, hdata, hvalue⟩ := hwhole _ _ _ hread
  obtain rfl : body = data := by rwa [Cursor.finish_eq_ok hfinish, List.append_nil] at hdata
  exact hvalue

end StructType

/-- **Canonical form of tag files.** For each type of the catalog, what was read from a body can be
written. What is written is read as the same value without the members that files leave out, and
that value is written as the same body again. It is as long as the body that was read, but a unit or
a vehicle has lost its predicted resources, of eight bytes each. -/
theorem exists_canonicalBody (type : StructType) (htype : type ∈ Catalog.types) {body : Bytes}
    {value : type.Value} (h : type.ReadsAs body value) :
    ∃ body', type.generateBody value = .ok body' ∧
      type.ReadsAs body' (type.members.withoutAbsent value) ∧
      type.generateBody (type.members.withoutAbsent value) = .ok body' ∧
      if type.name = "Unit" ∨ type.name = "Vehicle" then
        body'.length + 8 * type.promised ["predicted_resources"] body = body.length
      else body'.length = body.length := by
  obtain ⟨hlength, hvalue⟩ := h.inv (Catalog.leavesOut_of_mem htype)
  have hgenerate := type.generateBody_eq hvalue.fits
  have hagain := type.generateBody_eq (type.members.fits_withoutAbsent hvalue.fits)
  rw [Members.fileHead_withoutAbsent, Members.fileTail_withoutAbsent] at hagain
  have hreads := (type.reads_readFile (Catalog.isFileRegular_of_mem htype) hvalue.fits 0 []).1
    hvalue.clean
  rw [hvalue.kept, List.append_nil] at hreads
  refine ⟨_, hgenerate, ⟨_, hreads, rfl⟩, hagain, ?_⟩
  have hsize : ((type.members.layout .file).encode (type.members.fileHead value)).length =
      type.size .file := Layout.length_encode _ _
  rw [List.length_append, hsize]
  split_ifs with hname
  · rw [if_pos hname] at hlength
    exact hlength.symm
  · rw [if_neg hname, type.promised_nil] at hlength
    exact hlength.symm

namespace Catalog

/-- A vehicle with every flag, one weapon without a class and two predicted resources, and with
rubbish in what is not looked at. -/
def jeep : Bytes :=
  [0, 7, 0xFF, 0xFF] ++ Bytes.zeros 40 ++ [1, 2, 3, 4] ++ Bytes.zeros 4 ++
    [0, 0, 0, 1, 0xDE, 0xAD, 0xBE, 0xEF] ++ Bytes.zeros 16 ++ [0, 0, 0, 2] ++ Bytes.zeros 40 ++
    [0, 0, 0, 0, 9, 9, 9, 9, 0, 0, 0, 2, 9, 9, 9, 9, 0x6D, 0x67, 0] ++ List.replicate 16 5

/-- The jeep is accepted as a vehicle with two predicted resources. -/
theorem jeep_readsAs : vehicle.name = "Vehicle" ∧
    vehicle.promised ["predicted_resources"] jeep = 2 ∧ ∃ value, vehicle.ReadsAs jeep value := by
  obtain ⟨hname, hpromised, hread⟩ : vehicle.name = "Vehicle" ∧
      vehicle.promised ["predicted_resources"] jeep = 2 ∧
      ((vehicle.readBody false jeep).1.toBool &&
        (vehicle.readBody false jeep).2.rest.isEmpty) = true := by
    decide +kernel
  refine ⟨hname, hpromised, ?_⟩
  rcases hresult : vehicle.readBody false jeep with ⟨e | value, cursor⟩
  · rw [hresult] at hread
    cases hread
  · rw [hresult] at hread
    exact ⟨value, cursor, hresult, if_pos hread⟩

end Catalog

/-- The canonical form of the body of a vehicle is shorter by its two predicted resources. -/
theorem exists_canonicalBody_jeep :
    Catalog.vehicle ∈ Catalog.types ∧
    Catalog.vehicle.promised ["predicted_resources"] Catalog.jeep = 2 ∧
    ∃ value body', Catalog.vehicle.ReadsAs Catalog.jeep value ∧
      Catalog.vehicle.generateBody value = .ok body' ∧ body'.length + 16 = Catalog.jeep.length := by
  obtain ⟨hname, hpromised, value, hvalue⟩ := Catalog.jeep_readsAs
  obtain ⟨body', hgenerate, -, -, hlength⟩ :=
    exists_canonicalBody Catalog.vehicle Catalog.vehicle_mem hvalue
  rw [if_pos (Or.inr hname), hpromised] at hlength
  exact ⟨Catalog.vehicle_mem, hpromised, value, body', hvalue, hgenerate, hlength⟩

end TagSchema
