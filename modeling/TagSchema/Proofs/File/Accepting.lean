import Mathlib.Tactic.SplitIfs
import TagSchema.Proofs.File.Reading

/-!
# What a reader has accepted

The law `Reads` says what becomes of bytes that were written. The law of this module goes the other
way, from a success to the bytes behind it: a piece of data at the cursor has been consumed, and it
and the result are related. Nothing is said about failures.
-/

namespace TagSchema

/-- Whenever the action succeeds, it has consumed data that is in the relation to the result. -/
def Accepts {α : Type} (m : Reading α) (relation : Bytes → α → Prop) : Prop :=
  ∀ cursor a cursor', outcome m cursor = (.ok a, cursor') →
    ∃ data, cursor.rest = data ++ cursor'.rest ∧ relation data a

namespace Accepts

variable {α β : Type} {relation : Bytes → α → Prop}

theorem pure {a : α} (h : relation [] a) : Accepts (Pure.pure a) relation := by
  intro cursor b cursor' hok
  obtain ⟨rfl, rfl⟩ := outcome_pure_eq_ok hok
  exact ⟨[], rfl, h⟩

/-- One action after another has consumed the data of both. -/
theorem bind {m : Reading α} {f : α → Reading β} {relation' : Bytes → β → Prop}
    (hm : Accepts m relation)
    (hf : ∀ first a, relation first a →
      Accepts (f a) fun second b => relation' (first ++ second) b) :
    Accepts (m >>= f) relation' := by
  intro cursor b cursor'' hok
  obtain ⟨a, cursor', hfirst, hsecond⟩ := outcome_bind_eq_ok hok
  obtain ⟨first, hrest, ha⟩ := hm cursor a cursor' hfirst
  obtain ⟨second, hrest', hb⟩ := hf first a ha cursor' b cursor'' hsecond
  exact ⟨first ++ second, by rw [hrest, hrest', List.append_assoc], hb⟩

/-- A result that is only rearranged. -/
theorem map {m : Reading α} {f : α → β} {relation' : Bytes → β → Prop} (hm : Accepts m relation)
    (h : ∀ data a, relation data a → relation' data (f a)) :
    Accepts (m >>= fun a => Pure.pure (f a)) relation' :=
  hm.bind fun data a ha => Accepts.pure (by rw [List.append_nil]; exact h data a ha)

theorem adapt (wrap : TagError → TagError) {m : Reading α} (hm : Accepts m relation) :
    Accepts (ExceptT.adapt wrap m) relation :=
  fun cursor a cursor' hok => hm cursor a cursor' (outcome_adapt_eq_ok hok)

theorem mono {m : Reading α} {relation' : Bytes → α → Prop} (hm : Accepts m relation)
    (h : ∀ data a, relation data a → relation' data a) : Accepts m relation' := by
  intro cursor a cursor' hok
  obtain ⟨data, hrest, ha⟩ := hm cursor a cursor' hok
  exact ⟨data, hrest, h data a ha⟩

/-- A computation that consumes nothing. -/
theorem ofExcept {r : Except TagError α} (h : ∀ a, r = .ok a → relation [] a) :
    Accepts (liftM r) relation := by
  intro cursor a cursor' hok
  rw [outcome_liftM] at hok
  obtain ⟨hr, rfl⟩ := Prod.mk.inj hok
  exact ⟨[], rfl, h a hr⟩

end Accepts

/-! ### Operations of a cursor -/

namespace Cursor

theorem accepts_take (what : String) (count : Nat) :
    Accepts (take what count) fun data bytes => data = bytes ∧ bytes.length = count := by
  intro cursor bytes cursor' hok
  unfold take at hok
  rw [outcome_bind_ok (outcome_get cursor)] at hok
  split at hok
  · cases hok
  · next hroom =>
    cases hok
    exact ⟨_, (List.take_append_drop count cursor.rest).symm, rfl,
      List.length_take_of_le (Nat.le_of_not_lt hroom)⟩

theorem finish_eq_ok {cursor : Cursor} (h : cursor.finish = .ok ()) : cursor.rest = [] := by
  by_contra hne
  rw [finish, if_neg (by simpa using hne)] at h
  cases h

theorem accepts_blob (site : Site) (size : Nat) :
    Accepts (readBlob site size) fun data bytes => data = bytes ∧ bytes.length = size :=
  accepts_take _ size

/-- A path that was decoded has no zero byte, and it was stored in UTF-8 and terminated. -/
theorem decodePath_eq_ok {what : String} {length : Nat} {bytes : Bytes} {path : String}
    (hlength : bytes.length = length + 1) (h : decodePath what length bytes = .ok path) :
    0 ∉ Text.utf8 path ∧ Text.utf8 path ++ [0] = bytes := by
  dsimp only [decodePath] at h
  split_ifs at h with hlast hzero
  have hlast : bytes[length]? = some 0 := not_not.mp hlast
  cases hpath : Text.decodeUtf8? (bytes.take length) with
  | none => rw [hpath] at h; cases h
  | some text =>
    rw [hpath] at h
    cases h
    rw [Text.utf8_of_decodeUtf8? hpath]
    refine ⟨by simpa using hzero, ?_⟩
    have hdrop : bytes.drop length = [0] := by
      rw [List.drop_eq_getElem_cons (by omega), List.drop_eq_nil_of_le (by omega)]
      rw [List.getElem?_eq_getElem (by omega)] at hlast
      rw [Option.some.inj hlast]
    rw [← hdrop, List.take_append_drop]

/-- What a dependency that was read has to do with its bytes and with the class and the length in
its handle. -/
structure DependencyRead (default : Option TagClass) (tagClass : TagClass) (pathSize : Nat)
    (data : Bytes) (d : Dependency) : Prop where
  data : data = if d.isNull then [] else Text.utf8 d.path ++ [0]
  pathSize : (Text.utf8 d.path).length = pathSize
  clean : 0 ∉ Text.utf8 d.path
  tagClass : d.tagClass = Dependency.restoreClass default tagClass
  id : d.id = .null

theorem accepts_dependency (site : Site) (default : Option TagClass) (tagClass : TagClass)
    (pathSize : Nat) :
    Accepts (readDependency site default tagClass pathSize)
      (DependencyRead default tagClass pathSize) := by
  dsimp only [readDependency]
  split_ifs with hsize
  · exact Accepts.pure ⟨rfl, hsize.symm, List.not_mem_nil, rfl, rfl⟩
  · refine (accepts_take _ _).bind ?_
    rintro bytes _ ⟨rfl, hlength⟩
    have hdecode : Accepts (liftM (decodePath (site.render ++ " path") pathSize bytes))
        fun data path => data = [] ∧ 0 ∉ Text.utf8 path ∧ Text.utf8 path ++ [0] = bytes :=
      Accepts.ofExcept fun path hpath => ⟨rfl, decodePath_eq_ok hlength hpath⟩
    refine hdecode.map ?_
    rintro data path ⟨rfl, hclean, rfl⟩
    have hpath : (Text.utf8 path).length = pathSize := by simpa using hlength
    have hnull : path.isEmpty = false := by
      rw [Bool.eq_false_iff, Ne, ← Text.utf8_eq_nil_iff, ← List.length_eq_zero_iff, hpath]
      exact hsize
    refine ⟨?_, hpath, hclean, rfl, rfl⟩
    rw [List.append_nil, Dependency.isNull, Dependency.toTag, hnull]
    rfl

/-! ### Arrays -/

variable {α : Type} {size : Nat} {element : Bytes → Reading α} (tail : α → Bytes)
  (good : α → Prop)

/-- Elements have consumed as much as their tails take. -/
theorem accepts_elements (site : Site)
    (h : ∀ fixed, Accepts (element fixed) fun data a => data.length = (tail a).length ∧ good a)
    (index count : Nat) (fixed : Bytes) :
    Accepts (readElements site size element index count fixed) fun data items =>
      items.length = count ∧ data.length = (items.flatMap tail).length ∧ ∀ a ∈ items, good a := by
  induction count generalizing index fixed with
  | zero => exact Accepts.pure ⟨rfl, rfl, by simp⟩
  | succ count ih =>
    refine ((h _).adapt _).bind ?_
    rintro first a ⟨hfirst, ha⟩
    refine (ih _ _).map ?_
    rintro second items ⟨hcount, hsecond, hitems⟩
    refine ⟨by rw [List.length_cons, hcount], ?_, List.forall_mem_cons.mpr ⟨ha, hitems⟩⟩
    rw [List.flatMap_cons, List.length_append, List.length_append, hfirst, hsecond]

/-- An array has consumed its fixed parts and as much as the tails of its elements take. -/
theorem accepts_array (site : Site) (count : Nat)
    (h : ∀ fixed, Accepts (element fixed) fun data a => data.length = (tail a).length ∧ good a) :
    Accepts (readArray site count size element) fun data items =>
      items.length = count ∧ data.length = count * size + (items.flatMap tail).length ∧
        ∀ a ∈ items, good a := by
  unfold readArray
  split_ifs
  · intro cursor items cursor' hok
    cases hok
  · refine (accepts_take _ _).bind ?_
    rintro fixed _ ⟨rfl, hfixed⟩
    refine (accepts_elements tail good site h 0 count _).mono ?_
    rintro data items ⟨hcount, hdata, hitems⟩
    exact ⟨hcount, by rw [List.length_append, hfixed, hdata], hitems⟩

end Cursor

end TagSchema
