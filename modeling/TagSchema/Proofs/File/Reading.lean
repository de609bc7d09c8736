import TagSchema.Proofs.LayoutCodec
import TagSchema.Proofs.Outcome
import TagSchema.Proofs.StoredForm
import TagSchema.Proofs.Text.Utf8
import TagSchema.File.Cursor

/-!
# What is read from a tag file

The law of an action on a cursor says which bytes it consumes and what it gives for them, whatever
bytes follow. The bytes may spell a path that cannot be read back, so the law has a condition: when
it holds reading succeeds, and when it does not reading fails.
-/

namespace TagSchema

/-- At the start of `data`, whatever follows it: if `clean` holds, the action gives `result` and
consumes exactly `data`, and otherwise it fails. -/
def Reads {α : Type} (m : Reading α) (data : Bytes) (clean : Prop) (result : α) : Prop :=
  ∀ (position : Nat) (rest : Bytes),
    (clean →
      outcome m ⟨position, data ++ rest⟩ = (.ok result, ⟨position + data.length, rest⟩)) ∧
    (¬ clean → ∃ e cursor, outcome m ⟨position, data ++ rest⟩ = (.error e, cursor))

namespace Reads

variable {α β : Type}

theorem pure (a : α) : Reads (Pure.pure a) [] True a :=
  fun _ _ => ⟨fun _ => rfl, fun h => absurd trivial h⟩

theorem pure_of_eq {a b : α} (h : a = b) : Reads (Pure.pure a) [] True b := h ▸ Reads.pure a

/-- One action after another consumes the bytes of both. -/
theorem bind {m : Reading α} {f : α → Reading β} {first second : Bytes} {p q : Prop} {a : α}
    {b : β} (hm : Reads m first p a) (hf : Reads (f a) second q b) :
    Reads (m >>= f) (first ++ second) (p ∧ q) b := by
  intro position rest
  obtain ⟨hok, herror⟩ := hm position (second ++ rest)
  obtain ⟨hok', herror'⟩ := hf (position + first.length) rest
  rw [List.append_assoc, List.length_append, ← Nat.add_assoc]
  refine ⟨fun ⟨hp, hq⟩ => (outcome_bind_ok (hok hp)).trans (hok' hq), fun hnot => ?_⟩
  by_cases hp : p
  · obtain ⟨e, cursor, he⟩ := herror' fun hq => hnot ⟨hp, hq⟩
    exact ⟨e, cursor, (outcome_bind_ok (hok hp)).trans he⟩
  · obtain ⟨e, cursor, he⟩ := herror hp
    exact ⟨e, cursor, outcome_bind_error he⟩

/-- A result that is only rearranged. -/
theorem map {m : Reading α} {f : α → β} {data : Bytes} {p : Prop} {a : α}
    (hm : Reads m data p a) : Reads (m >>= fun x => Pure.pure (f x)) data p (f a) := by
  have h := hm.bind (f := fun x => Pure.pure (f x)) (Reads.pure (f a))
  simpa using h

theorem adapt (wrap : TagError → TagError) {m : Reading α} {data : Bytes} {p : Prop} {a : α}
    (hm : Reads m data p a) : Reads (ExceptT.adapt wrap m) data p a := by
  intro position rest
  obtain ⟨hok, herror⟩ := hm position rest
  refine ⟨fun hp => outcome_adapt_ok (hok hp), fun hp => ?_⟩
  obtain ⟨e, cursor, he⟩ := herror hp
  exact ⟨wrap e, cursor, by rw [outcome_adapt, he]; rfl⟩

theorem congr {m : Reading α} {data : Bytes} {p q : Prop} {a : α} (hm : Reads m data p a)
    (h : p ↔ q) : Reads m data q a := by
  rw [← propext h]
  exact hm

/-- A successful or failed computation that consumes nothing. -/
theorem ofExcept {r : Except TagError α} {p : Prop} {a : α} (hok : p → r = .ok a)
    (herror : ¬ p → ∃ e, r = .error e) : Reads (liftM r) [] p a := by
  intro position rest
  refine ⟨fun hp => by rw [outcome_liftM, hok hp]; rfl, fun hp => ?_⟩
  obtain ⟨e, he⟩ := herror hp
  exact ⟨e, _, by rw [outcome_liftM, he]⟩

end Reads

/-! ### Paths -/

namespace Text

theorem utf8_eq_nil_iff (text : String) : utf8 text = [] ↔ text.isEmpty := by
  rw [utf8_eq_flatMap, List.flatMap_eq_nil_iff, String.isEmpty_iff]
  constructor
  · intro h
    rw [← String.toList_eq_nil_iff]
    exact List.eq_nil_iff_forall_not_mem.mpr fun c hc =>
      String.utf8EncodeChar_ne_nil (h c hc)
  · rintro rfl c hc
    cases hc

end Text

namespace Cursor

/-- The path that was written is read unless it has a zero byte. -/
theorem decodePath_utf8 (what path : String) :
    (0 ∉ Text.utf8 path →
      decodePath what (Text.utf8 path).length (Text.utf8 path ++ [0]) = .ok path) ∧
    (0 ∈ Text.utf8 path →
      decodePath what (Text.utf8 path).length (Text.utf8 path ++ [0]) =
        .error (.invalidData (.earlyTerminator what))) := by
  have hlast : (Text.utf8 path ++ [0])[(Text.utf8 path).length]? = some 0 := by simp
  have hpath : (Text.utf8 path ++ [0]).take (Text.utf8 path).length = Text.utf8 path :=
    List.take_left' rfl
  unfold decodePath
  rw [hpath, hlast]
  refine ⟨fun h => ?_, fun h => ?_⟩
  · simp [h, Text.decodeUtf8?_utf8]
  · simp [h]

theorem reads_take (what : String) (data : Bytes) :
    Reads (take what data.length) data True data := by
  intro position rest
  refine ⟨fun _ => ?_, fun h => absurd trivial h⟩
  unfold take
  rw [outcome_bind_ok (outcome_get _), if_neg (by simp)]
  refine (outcome_bind_ok (outcome_set _ _)).trans ?_
  simp

theorem reads_blob (site : Site) (data : Bytes) :
    Reads (readBlob site data.length) data True data :=
  reads_take _ data

/-- A dependency is read back from its class and its path; the identifier is not written. -/
theorem reads_dependency (site : Site) (default : Option TagClass) (d : Dependency) :
    Reads
      (readDependency site default (Dependency.restoreClass default d.tagClass)
        (Text.utf8 d.path).length)
      (if d.isNull then [] else Text.utf8 d.path ++ [0]) (0 ∉ Text.utf8 d.path)
      { d with tagClass := Dependency.restoreClass default d.tagClass, id := .null } := by
  unfold readDependency
  rw [Dependency.restoreClass_restoreClass]
  cases hnull : d.isNull
  · have hpath : Text.utf8 d.path ≠ [] := fun h => by
      rw [Text.utf8_eq_nil_iff] at h
      exact absurd (hnull.symm.trans h) (by decide)
    dsimp only
    rw [if_neg (fun h => hpath (List.eq_nil_of_length_eq_zero h)), if_neg Bool.false_ne_true]
    have htake := reads_take (site.render ++ " path") (Text.utf8 d.path ++ [0])
    rw [List.length_append] at htake
    obtain ⟨hok, herror⟩ := decodePath_utf8 (site.render ++ " path") d.path
    have hdecode := Reads.ofExcept hok fun h => ⟨_, herror (Decidable.not_not.mp h)⟩
    -- The text behind the length is taken first, with the byte that ends it, and then decoded.
    refine Reads.congr (p := True ∧ 0 ∉ Text.utf8 d.path) ?_ (by simp)
    rw [← List.append_nil (Text.utf8 d.path ++ [0])]
    exact htake.bind hdecode.map
  · have hempty : Text.utf8 d.path = [] := (Text.utf8_eq_nil_iff d.path).mpr hnull
    have hpath : d.path = "" := String.isEmpty_iff.mp hnull
    dsimp only
    rw [hempty, hpath, if_pos rfl]
    exact (Reads.pure (Dependency.nullOf _)).congr (by simp)

/-! ### Arrays -/

/-- Elements are read back from their heads, which are given, and their tails, which come next. -/
theorem reads_elements {α β : Type} {site : Site} {size : Nat} {element : Bytes → Reading β}
    {head tail : α → Bytes} {clean : α → Prop} {result : α → β}
    (hsize : ∀ a, (head a).length = size) (items : List α) (index : Nat)
    (helement : ∀ a ∈ items, Reads (element (head a)) (tail a) (clean a) (result a)) :
    Reads (readElements site size element index items.length (items.flatMap head))
      (items.flatMap tail) (∀ a ∈ items, clean a) (items.map result) := by
  induction items generalizing index with
  | nil => exact (Reads.pure []).congr (by simp)
  | cons a rest ih =>
    have hfirst := (helement a (List.mem_cons_self ..)).adapt (.element .parse site index)
    have hrest := ih (index + 1) fun b hb => helement b (List.mem_cons_of_mem _ hb)
    rw [List.flatMap_cons, List.flatMap_cons, List.length_cons, readElements,
      List.take_left' (hsize a), List.drop_left' (hsize a)]
    exact (hfirst.bind (hrest.map (f := (result a :: ·)))).congr (by simp)

/-- An array is read back from the heads of its elements, followed by their tails. -/
theorem reads_array {α β : Type} (site : Site) {size : Nat} (element : Bytes → Reading β)
    {head tail : α → Bytes} {clean : α → Prop} {result : α → β}
    (hsize : ∀ a, (head a).length = size) (items : List α)
    (hcount : items.length * size < UInt64.size)
    (helement : ∀ a ∈ items, Reads (element (head a)) (tail a) (clean a) (result a)) :
    Reads (readArray site items.length size element)
      (items.flatMap head ++ items.flatMap tail) (∀ a ∈ items, clean a) (items.map result) := by
  have hlength : (items.flatMap head).length = items.length * size :=
    length_flatMap_of_length_eq hsize items
  have htake := reads_take site.field (items.flatMap head)
  rw [hlength] at htake
  unfold readArray
  rw [if_neg (by omega)]
  exact (htake.bind (reads_elements hsize items 0 helement)).congr (by simp)

theorem reads_array_nil {β : Type} (site : Site) (size : Nat) (element : Bytes → Reading β) :
    Reads (readArray site 0 size element) [] True [] := by
  unfold readArray
  rw [if_neg (by simp [UInt64.size]), Nat.zero_mul]
  have nothing : Reads (readElements site size element 0 0 []) [] True [] := Reads.pure []
  exact ((reads_take site.field []).bind nothing).congr (and_self_iff)

end Cursor

end TagSchema
