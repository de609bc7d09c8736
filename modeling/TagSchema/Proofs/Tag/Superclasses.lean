import TagSchema.Proofs.Tag.Insertion

/-!
# Superclasses and their members

A superclass stands for itself and its members, and a member has no members of its own. So the list
that stands for a list of classes is the same whether a class comes once or again, and expanding it
a second time finds nothing new.
-/

namespace TagSchema.ClassTable

/-! ### The table -/

/-- The members of a superclass; any other class has none. -/
def membersOf (name : String) : List String := (members? name).getD []

/-- A class and its members. -/
def family (name : String) : List String := name :: membersOf name

theorem members?_of_mem : ∀ entry ∈ superclasses, members? entry.1 = some entry.2 := by decide

theorem mem_membersOf_iff {name member : String} :
    member ∈ membersOf name ↔ ∃ entry ∈ superclasses, entry.1 = name ∧ member ∈ entry.2 := by
  constructor
  · intro mem
    rw [membersOf, members?] at mem
    cases found : superclasses.find? (·.1 = name) with
    | none => simp [found] at mem
    | some entry =>
      have named : entry.1 = name := by simpa using List.find?_some found
      exact ⟨entry, List.mem_of_find?_eq_some found, named, by simpa [found] using mem⟩
  · rintro ⟨entry, listed, rfl, mem⟩
    rw [membersOf, members?_of_mem entry listed]
    exact mem

/-- A member is a single class. -/
theorem members_single : ∀ entry ∈ superclasses, ∀ member ∈ entry.2,
    member ≠ anyClass ∧ membersOf member = [] := by decide +kernel

theorem family_of_mem {name member : String} (mem : member ∈ membersOf name) :
    family member = [member] := by
  obtain ⟨entry, listed, -, mem⟩ := mem_membersOf_iff.mp mem
  rw [family, (members_single entry listed member mem).2]

theorem flatMap_family_family (name : String) :
    (family name).flatMap family = family name ++ membersOf name := by
  have alone : (membersOf name).flatMap family = membersOf name := by
    rw [List.flatMap_congr fun member => family_of_mem, List.flatMap_singleton']
  conv_lhs => rw [family, List.flatMap_cons, alone]

/-! ### Expansion -/

theorem expand_eq {names : List String} (named : anyClass ∉ names) :
    expand names = (names.flatMap family).foldl insertNew [] := by
  rw [expand, if_neg named, List.foldl_flatMap]
  rfl

theorem anyClass_notMem_expand (names : List String) : anyClass ∉ expand names := by
  by_cases named : anyClass ∈ names
  · rw [expand, if_pos named]
    exact List.not_mem_nil
  rw [expand_eq named, mem_foldl_insertNew, List.mem_flatMap]
  rintro (⟨⟨⟩⟩ | ⟨name, mem, any⟩)
  obtain rfl | member := List.mem_cons.mp any
  · exact named mem
  · obtain ⟨entry, listed, -, member⟩ := mem_membersOf_iff.mp member
    exact (members_single entry listed _ member).1 rfl

theorem mem_expand_iff {names : List String} (named : anyClass ∉ names) {name : String} :
    name ∈ expand names ↔
      name ∈ names ∨ ∃ entry ∈ superclasses, entry.1 ∈ names ∧ name ∈ entry.2 := by
  rw [expand_eq named, mem_foldl_insertNew, List.mem_flatMap]
  constructor
  · rintro (⟨⟨⟩⟩ | ⟨owner, mem, inFamily⟩)
    obtain rfl | member := List.mem_cons.mp inFamily
    · exact .inl mem
    · obtain ⟨entry, listed, rfl, inTable⟩ := mem_membersOf_iff.mp member
      exact .inr ⟨entry, listed, mem, inTable⟩
  · rintro (mem | ⟨entry, listed, mem, member⟩)
    · exact .inr ⟨name, mem, List.mem_cons_self⟩
    · have inFamily := mem_membersOf_iff.mpr ⟨entry, listed, rfl, member⟩
      exact .inr ⟨entry.1, mem, List.mem_cons_of_mem _ inFamily⟩

/-- **Expansion of superclasses.** The token for every class makes a list empty. Without it, the
names of a list and the members of the superclasses among them are gathered as they are first seen,
each once, so that what a second list adds to a first comes behind it. Expanding twice is expanding
once. -/
theorem expand_union (names : List String) :
    (anyClass ∈ names → expand names = []) ∧
    (anyClass ∉ names →
      (expand names).Nodup ∧
      (∀ name, name ∈ expand names ↔
        name ∈ names ∨ ∃ entry ∈ superclasses, entry.1 ∈ names ∧ name ∈ entry.2) ∧
      (∀ more, anyClass ∉ more →
        expand (names ++ more) = expand names ++ (expand more).filter (· ∉ expand names)) ∧
      expand (expand names) = expand names) := by
  refine ⟨fun any => if_pos any, fun named => ⟨?_, fun name => mem_expand_iff named, ?_, ?_⟩⟩
  · rw [expand_eq named]
    exact nodup_foldl_insertNew List.nodup_nil
  · intro more named'
    have both : anyClass ∉ names ++ more := by simp [named, named']
    rw [expand_eq both, expand_eq named, expand_eq named', List.flatMap_append, List.foldl_append]
    exact foldl_insertNew_eq_append
  · rw [expand_eq (anyClass_notMem_expand names), expand_eq named, foldl_insertNew_flatMap_distinct,
      List.flatMap_assoc]
    simp only [flatMap_family_family]
    exact foldl_insertNew_flatMap_append family fun name => List.subset_cons_self _ _

/-- Superclasses that overlap, with a member of both before them. -/
theorem expand_union_weapons :
    anyClass ∉ ["weapon", "item"] ∧ anyClass ∉ ["object"] ∧
    expand ["weapon", "item"] = ["weapon", "item", "equipment", "garbage"] ∧
    expand ["weapon", "item", "object"] =
      ["weapon", "item", "equipment", "garbage"] ++
        ["object", "biped", "vehicle", "projectile", "scenery", "device_machine", "device_control",
          "device_light_fixture", "placeholder", "sound_scenery"] ∧
    expand (expand ["weapon", "item"]) = expand ["weapon", "item"] := by
  have named : anyClass ∉ ["weapon", "item"] := by decide
  have named' : anyClass ∉ ["object"] := by decide
  have first : expand ["weapon", "item"] = ["weapon", "item", "equipment", "garbage"] := by decide
  obtain ⟨-, -, union, twice⟩ := (expand_union ["weapon", "item"]).2 named
  refine ⟨named, named', first, ?_, twice⟩
  refine (union ["object"] named').trans ?_
  rw [first]
  decide +kernel

end TagSchema.ClassTable
