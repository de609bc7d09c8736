import TagSchema.Proofs.File.Reading
import TagSchema.Proofs.File.Writing
import TagSchema.Proofs.Regular
import TagSchema.Proofs.StoredForm

/-!
# Tag files are read back

Reading the head and the tail of a value gives back what tag files keep of it: members that files
leave out come back unset, hidden flags and identifiers are lost, and a null class is restored. The
only values that are not read back are those with a zero byte in a path.
-/

namespace TagSchema

/-! ### What tag files keep -/

namespace LeafType

/-- What a tag file keeps of a member that it does not leave out. -/
def fileKept : (type : LeafType) → type.Value → type.Value
  | .plain type, value => type.kept .file value
  | .dependency classes _, (d : Dependency) =>
    ({ d with tagClass := Dependency.restoreClass (defaultClass classes) d.tagClass
              id := .null } : Dependency)
  | .blob _, (data : Bytes) => data

end LeafType

namespace Members

/-- What a tag file keeps of the members, at every depth. -/
def fileKept : (members : Members) → members.Value → members.Value
  | .nil, _ => ()
  | .leaf traits type rest, value =>
    (if traits.isAbsentFromFiles then type.zero else type.fileKept value.1, rest.fileKept value.2)
  | .array traits _ _ _ element rest, value =>
    (if traits.isAbsentFromFiles then [] else value.1.map element.fileKept, rest.fileKept value.2)

end Members

/-! ### Reading what was written -/

namespace LeafType

theorem reads_readFile (order : ByteOrder) (site : Site) (type : LeafType) {value : type.Value}
    (h : type.Fits value) :
    Reads (type.readFile order site (type.fileHead order value)) (type.fileTail value)
      (∀ path ∈ type.paths value, 0 ∉ Text.utf8 path) (type.fileKept value) := by
  cases type with
  | plain type =>
    refine Reads.congr (p := True) ?_ (by simp [paths])
    exact Reads.pure_of_eq (type.load_store .file order value)
  | dependency classes nonNull =>
    have hcount : (UInt32.ofNat (Text.utf8 (value : Dependency).path).length).toNat = _ :=
      UInt32.toNat_ofNat_of_lt h
    refine Reads.congr (p := 0 ∉ Text.utf8 (value : Dependency).path) ?_ (by simp [paths])
    simp only [readFile, fileHead, DependencyHandle.load_store, hcount]
    exact Cursor.reads_dependency site (defaultClass classes) value
  | blob selector =>
    have hcount : (UInt32.ofNat (value : Bytes).length).toNat = _ := UInt32.toNat_ofNat_of_lt h
    refine Reads.congr (p := True) ?_ (by simp [paths])
    simp only [readFile, fileHead, BlobHandle.load_store, hcount]
    exact Cursor.reads_blob site value

/-- A member that was left out is read as one that was never set. -/
theorem reads_readFile_zero (order : ByteOrder) (site : Site) {type : LeafType}
    (h : type.isDependency = false) :
    Reads (type.readFile order site (type.layout order).zero) [] True type.zero := by
  cases type with
  | plain type => exact Reads.pure_of_eq (type.load_zero .file order)
  | dependency => cases h
  | blob selector =>
    simp only [readFile, layout, BlobHandle.load_zero]
    exact Cursor.reads_blob site []

end LeafType

namespace Members

/-- The members of a struct are read back from their head and their tail. -/
theorem reads_readFile (owner : String) (members : Members) {value : members.Value}
    (hregular : members.isFileRegular = true) (h : members.Fits value) :
    Reads (members.readFile false owner (members.fileHead value)) (members.fileTail value)
      (∀ path ∈ members.paths value, 0 ∉ Text.utf8 path) (members.fileKept value) := by
  induction members generalizing owner with
  | nil => exact (Reads.pure _).congr (by simp [paths])
  | leaf traits type rest ih =>
    simp only [isFileRegular, Bool.and_eq_true, Bool.not_eq_true'] at hregular
    obtain ⟨hfirst, hrest⟩ := h
    have hothers := ih owner hregular.2 hrest
    simp only [readFile, fileHead, fileTail, fileKept, paths]
    cases habsent : traits.isAbsentFromFiles
    · exact ((type.reads_readFile _ _ (hfirst habsent)).bind
        (hothers.map (f := (type.fileKept value.1, ·)))).congr (by simp [or_imp, forall_and])
    · have hplain : type.isDependency = false := by simpa [habsent] using hregular.1
      rw [LeafType.paths_eq_nil hplain]
      exact ((type.reads_readFile_zero _ _ hplain).bind
        (hothers.map (f := (type.zero, ·)))).congr (by simp)
  | array traits limits name title element rest ihElement ih =>
    simp only [isFileRegular, Bool.and_eq_true, Bool.not_eq_true', decide_eq_true_eq] at hregular
    obtain ⟨⟨⟨habsentElement, hsize⟩, helement⟩, hregularRest⟩ := hregular
    obtain ⟨hfirst, hrest⟩ := h
    have hothers := ih owner hregularRest hrest
    simp only [readFile, fileHead, fileTail, fileKept, paths]
    cases habsent : traits.isAbsentFromFiles
    · obtain ⟨hlength, hitems⟩ := hfirst habsent
      have hkept := FieldTraits.cacheOnly_eq_false habsent
      have hcount : (UInt32.ofNat (List.length value.1)).toNat = _ :=
        UInt32.toNat_ofNat_of_lt hlength
      have hspace : List.length value.1 * (element.layout .file).size < UInt64.size :=
        Nat.mul_lt_mul'' hlength hsize
      have hitems := Cursor.reads_array (traits.site owner)
        (fun fixed => element.readFile false name ((element.layout .file).decode fixed))
        (fun item => Layout.length_encode (element.layout .file) (element.fileHead item)) value.1
        hspace fun item hitem => by
          rw [Layout.decode_encode]
          exact ihElement name helement (hitems item hitem)
      rw [if_neg Bool.false_ne_true, ArrayHandle.load_store, hcount, hkept]
      exact (hitems.bind (hothers.map (f := (value.1.map element.fileKept, ·)))).congr (by
        rw [List.forall_mem_append, List.forall_mem_flatMap])
    · -- Members that were left out hold no paths, so they cannot spoil the file.
      have hplain : element.holdDependency = false := by simpa [habsent] using habsentElement
      have hpaths : List.flatMap element.paths value.1 = [] :=
        List.flatMap_eq_nil_iff.mpr fun item _ => paths_eq_nil hplain item
      have hitems := Cursor.reads_array_nil (traits.site owner) (element.layout .file).size
        fun fixed => element.readFile false name ((element.layout .file).decode fixed)
      simp only [reduceIte, ArrayHandle.load_zero, hpaths]
      refine (hitems.bind (q := ∀ path ∈ rest.paths value.2, 0 ∉ Text.utf8 path) ?_).congr (by simp)
      simp only [ite_self]
      exact hothers.map

end Members

namespace StructType

/-- A struct is read back from the body that was generated for it. -/
theorem reads_readFile (type : StructType) {value : type.Value}
    (hregular : type.members.isFileRegular = true) (h : type.members.Fits value) :
    Reads (type.readFile false)
      ((type.members.layout .file).encode (type.members.fileHead value) ++
        type.members.fileTail value)
      (∀ path ∈ type.members.paths value, 0 ∉ Text.utf8 path) (type.members.fileKept value) := by
  have hhead := Cursor.reads_take type.name
    ((type.members.layout .file).encode (type.members.fileHead value))
  rw [Layout.length_encode] at hhead
  have hmembers := type.members.reads_readFile type.name hregular h
  rw [← Layout.decode_encode (type.members.layout .file) (type.members.fileHead value)] at hmembers
  exact (hhead.bind hmembers).congr (by rw [true_and])

end StructType

/-! ### Whole files -/

namespace FileHeader

/-- The body of a file is found behind the header that was put before it. -/
theorem validate_wrap (tagClass : TagClass) (body : Bytes) :
    validate (wrap tagClass body) (some tagClass) = .ok body := by
  have hdecode : layout.decode (wrap tagClass body) = value tagClass (Checksum.crc32 body) :=
    Layout.decode_encode_append _ _ _
  have hlength : (wrap tagClass body).length = size + body.length := by
    rw [wrap, List.length_append, Layout.length_encode]
    rfl
  have hbody : (wrap tagClass body).drop size = body :=
    List.drop_left' (Layout.length_encode _ _)
  unfold validate
  rw [hdecode, hbody, if_neg (by omega)]
  dsimp only [value]
  rw [if_neg (not_not_intro rfl)]
  refine (if_neg (not_not_intro ?_)).trans ?_
  · decide
  rw [if_neg (not_not_intro rfl), if_neg (not_not_intro rfl)]
  rfl

end FileHeader

namespace StructType

/-- The value of a file is the value of its body, if nothing of the body is left. -/
theorem parseFile_wrap (type : StructType) (tagClass : TagClass) (postprocess : Bool)
    (body : Bytes) :
    type.parseFile (some tagClass) postprocess (FileHeader.wrap tagClass body) =
      (type.readBody postprocess body).1.bind fun value =>
        (type.readBody postprocess body).2.finish.bind fun _ => .ok value := by
  unfold parseFile
  rw [FileHeader.validate_wrap]
  rfl

end StructType

/-- **Round trip of tag files.** For each type of the catalog and every value whose lengths fit, a
file is generated, and it is read back exactly when no path of the value has a zero byte. What is
read is what tag files keep of the value, and a longer body is read up to where the value ends. -/
theorem parseFile_generateFile (type : StructType) (htype : type ∈ Catalog.types)
    (value : type.Value) (h : type.members.Fits value) (tagClass : TagClass) (rest : Bytes) :
    ∃ body, type.generateBody value = .ok body ∧
      type.generateFile tagClass value = .ok (FileHeader.wrap tagClass body) ∧
      ((∃ result,
          type.parseFile (some tagClass) false (FileHeader.wrap tagClass body) = .ok result) ↔
        ∀ path ∈ type.members.paths value, 0 ∉ Text.utf8 path) ∧
      ((∀ path ∈ type.members.paths value, 0 ∉ Text.utf8 path) →
        type.parseFile (some tagClass) false (FileHeader.wrap tagClass body) =
          .ok (type.members.fileKept value) ∧
        type.readBody false (body ++ rest) =
          (.ok (type.members.fileKept value), { position := body.length, rest })) := by
  have hreads := type.reads_readFile (Catalog.isFileRegular_of_mem htype) h
  have hgenerate := type.generateBody_eq h
  obtain ⟨body, hbody⟩ : ∃ body, body = (type.members.layout .file).encode
    (type.members.fileHead value) ++ type.members.fileTail value := ⟨_, rfl⟩
  rw [← hbody] at hreads hgenerate
  have hfile : type.generateFile tagClass value = .ok (FileHeader.wrap tagClass body) := by
    unfold StructType.generateFile
    rw [hgenerate]
    rfl
  have hread (hclean : ∀ path ∈ type.members.paths value, 0 ∉ Text.utf8 path) (rest : Bytes) :
      type.readBody false (body ++ rest) =
        (.ok (type.members.fileKept value), { position := body.length, rest }) := by
    have houtcome := (hreads 0 rest).1 hclean
    rw [Nat.zero_add] at houtcome
    exact houtcome
  have hparse (hclean : ∀ path ∈ type.members.paths value, 0 ∉ Text.utf8 path) :
      type.parseFile (some tagClass) false (FileHeader.wrap tagClass body) =
        .ok (type.members.fileKept value) := by
    have hwhole := hread hclean []
    rw [List.append_nil] at hwhole
    rw [type.parseFile_wrap, hwhole]
    rfl
  refine ⟨body, hgenerate, hfile, ⟨fun ⟨result, hresult⟩ => ?_, fun hclean => ⟨_, hparse hclean⟩⟩,
    fun hclean => ⟨hparse hclean, hread hclean rest⟩⟩
  -- A path with a zero byte makes the reader of the body fail, and so the parser.
  by_contra hclean
  obtain ⟨e, cursor, he⟩ := (hreads 0 []).2 hclean
  rw [List.append_nil] at he
  have hbad : type.readBody false body = (.error e, cursor) := he
  rw [type.parseFile_wrap, hbad] at hresult
  cases hresult

/-- The pistol refers to its model and to nothing else. -/
theorem Catalog.pistol_fits :
    weapon.members.Fits pistol ∧ weapon.members.paths pistol = ["weapons\\épée", "", ""] := by
  decide +kernel

/-- The pistol of the catalog is read back from its file, and from its body with three more bytes
behind it. -/
theorem parseFile_generateFile_pistol :
    Catalog.weapon ∈ Catalog.types ∧ Catalog.weapon.members.Fits Catalog.pistol ∧
    ∃ body, Catalog.weapon.generateFile .none Catalog.pistol = .ok (FileHeader.wrap .none body) ∧
      Catalog.weapon.parseFile (some .none) false (FileHeader.wrap .none body) =
        .ok (Catalog.weapon.members.fileKept Catalog.pistol) ∧
      Catalog.weapon.readBody false (body ++ [1, 2, 3]) =
        (.ok (Catalog.weapon.members.fileKept Catalog.pistol),
          { position := body.length, rest := [1, 2, 3] }) := by
  obtain ⟨hfits, hpaths⟩ := Catalog.pistol_fits
  have hclean : ∀ path ∈ Catalog.weapon.members.paths Catalog.pistol, 0 ∉ Text.utf8 path := by
    rw [hpaths]
    decide +kernel
  obtain ⟨body, -, hfile, -, hread⟩ :=
    parseFile_generateFile Catalog.weapon Catalog.weapon_mem Catalog.pistol hfits .none [1, 2, 3]
  exact ⟨Catalog.weapon_mem, hfits, body, hfile, hread hclean⟩

end TagSchema
