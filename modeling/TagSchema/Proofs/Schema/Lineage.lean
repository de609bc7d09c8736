import TagSchema.Proofs.Schema.Inheritance

/-!
# Walks along inheritance end

The list of descendants grows while it is gone through, and the way up may go round in a circle or
lead out of the schema. `Grows` and `Climbs` say how the two walks go without a bound, so that a
derivation is a walk that ends, and the bounds of the definitions are never met (`Growth.grows`,
`climbs_climb`).

A name has at most one parent (`rightUnique_inherits`), so there is one way up. Either it ends at a
struct without a parent, or it ends outside the schema, or it comes to some struct again and again,
and that is what the lineage reports.
-/

namespace TagSchema

open Relation (ReflTransGen TransGen)

/-! ### Ways on which each step is determined -/

namespace SingleWay

variable {α : Type} {r : α → α → Prop} {a b last last' owner owner' : α}

/-- What lies on a circle never leaves it. -/
theorem circle_of_path (single : Relator.RightUnique r) (circle : TransGen r a a)
    (path : ReflTransGen r a b) : TransGen r b b := by
  induction path with
  | refl => exact circle
  | tail _ step ih =>
    obtain ⟨next, first, rest⟩ := TransGen.head'_iff.mp ih
    obtain rfl := single first step
    exact TransGen.tail' rest step

/-- Behind an end comes nothing. -/
theorem eq_of_end (ends : ∀ next, ¬ r last next) (path : ReflTransGen r last b) : last = b := by
  obtain same | ⟨next, step, -⟩ := path.cases_head
  · exact same
  · exact absurd step (ends next)

/-- A way has one end. -/
theorem end_unique (single : Relator.RightUnique r) (path : ReflTransGen r a last)
    (ends : ∀ next, ¬ r last next) (path' : ReflTransGen r a last')
    (ends' : ∀ next, ¬ r last' next) : last = last' := by
  obtain behind | behind := ReflTransGen.total_of_right_unique single path path'
  · exact eq_of_end ends behind
  · exact (eq_of_end ends' behind).symm

/-- A way with an end meets no circle. -/
theorem not_circle_of_end (single : Relator.RightUnique r) (path : ReflTransGen r a last)
    (ends : ∀ next, ¬ r last next) (meets : ReflTransGen r a b) : ¬ TransGen r b b := by
  intro circle
  have atEnd : ReflTransGen r b last := by
    obtain behind | ahead := ReflTransGen.total_of_right_unique single path meets
    · exact eq_of_end ends behind ▸ .refl
    · exact ahead
  obtain ⟨next, step, -⟩ := TransGen.head'_iff.mp (circle_of_path single circle atEnd)
  exact ends next step

/-- The step to the end is made from one place. -/
theorem owner_unique (single : Relator.RightUnique r) (path : ReflTransGen r a owner)
    (step : r owner last) (path' : ReflTransGen r a owner') (step' : r owner' last)
    (ends : ∀ next, ¬ r last next) : owner = owner' := by
  -- Of two places on the way one comes first, and the end lies between it and the other.
  have first {o o' : α} (step : r o last) (step' : r o' last) (between : ReflTransGen r o o') :
      o = o' := by
    obtain same | ⟨next, onward, rest⟩ := between.cases_head
    · exact same
    · obtain rfl := single step onward
      obtain rfl := eq_of_end ends rest
      exact absurd step' (ends last)
  obtain between | between := ReflTransGen.total_of_right_unique single path path'
  · exact first step step' between
  · exact (first step' step between).symm

end SingleWay

namespace SchemaSet

variable {schema : SchemaSet} {root name owner parent : String} {position : Nat}
  {found : List String} {s : ResolvedStruct} {chain : List ResolvedStruct}

/-! ### Walks without a bound -/

/-- Follows inheritance from a struct, with the structs passed before it, the last first:
`Climbs schema chain s result` if that ends with the given result. -/
inductive Climbs (schema : SchemaSet) :
    List ResolvedStruct → ResolvedStruct → Except SchemaError (List ResolvedStruct) → Prop
  | again {chain : List ResolvedStruct} {s : ResolvedStruct}
      (passed : s.name ∈ chain.map (·.name)) :
      Climbs schema chain s (.error (.circularDependency (chain.reverse.map (·.name))))
  | root {chain : List ResolvedStruct} {s : ResolvedStruct} (fresh : s.name ∉ chain.map (·.name))
      (top : s.inherits = none) : Climbs schema chain s (.ok (s :: chain))
  | unknown {chain : List ResolvedStruct} {s : ResolvedStruct} {parent : String}
      (fresh : s.name ∉ chain.map (·.name)) (inherits : s.inherits = some parent)
      (unknown : schema.struct? parent = none) :
      Climbs schema chain s (.error (.unknownParent s.name parent))
  | up {chain : List ResolvedStruct} {s next : ResolvedStruct} {parent : String}
      {result : Except SchemaError (List ResolvedStruct)}
      (fresh : s.name ∉ chain.map (·.name)) (inherits : s.inherits = some parent)
      (found : schema.struct? parent = some next) (rest : Climbs schema (s :: chain) next result) :
      Climbs schema chain s result

/-- With room for every struct on the way, the bounded climb ends by itself. -/
theorem climbs_climb {fuel : Nat} (hs : s ∈ schema.structs)
    (distinct : (chain.map (·.name)).Nodup)
    (defined : chain.map (·.name) ⊆ schema.structs.map (·.name))
    (room : schema.structs.length < fuel + chain.length) :
    Climbs schema chain s (schema.climb fuel chain s) := by
  -- The chain has distinct names that are all defined, so it cannot outgrow the schema before the
  -- fuel is spent.
  induction fuel generalizing chain s with
  | zero =>
    have := (distinct.subperm defined).length_le
    simp only [List.length_map] at this
    omega
  | succ fuel ih =>
    rw [climb]
    split
    · rename_i again
      exact .again (by simpa using again)
    · rename_i again
      have fresh : s.name ∉ chain.map (·.name) := by simpa using again
      cases inherits : s.inherits with
      | none => exact .root fresh inherits
      | some parent =>
        dsimp only
        cases found : schema.struct? parent with
        | none => exact .unknown fresh inherits found
        | some next =>
          refine .up fresh inherits found (ih (struct?_eq_some found).1 ?_ ?_ ?_)
          · exact List.nodup_cons.mpr ⟨fresh, distinct⟩
          · exact List.cons_subset.mpr ⟨List.mem_map_of_mem hs, defined⟩
          · rw [List.length_cons]
            omega

/-- The lineage of a struct is found by climbing from it. -/
theorem climbs_lineage (h : schema.struct? name = some s) :
    Climbs schema [] s (schema.lineage name) := by
  rw [lineage, h]
  exact climbs_climb (struct?_eq_some h).1 List.nodup_nil (List.nil_subset _) (by simp)

/-! ### The three ways up -/

/-- The way up from a name comes to some struct again. -/
def Circles (schema : SchemaSet) (name : String) : Prop :=
  ∃ again, ReflTransGen schema.Inherits name again ∧ TransGen schema.Inherits again again

/-- The way up from a name comes to a struct whose parent is not defined. -/
structure Strays (schema : SchemaSet) (name owner parent : String) : Prop where
  path : ReflTransGen schema.Inherits name owner
  inherits : schema.Inherits owner parent
  unknown : schema.struct? parent = none

/-- A climb that fails reports what lies ahead. -/
theorem Climbs.ahead {result : Except SchemaError (List ResolvedStruct)}
    (climbs : schema.Climbs chain s result) (hs : s ∈ schema.structs)
    (below : ∀ c ∈ chain, TransGen schema.Inherits c.name s.name) :
    (∃ cycle, result = .error (.circularDependency cycle) ∧ schema.Circles s.name) ∨
    (∃ owner parent, result = .error (.unknownParent owner parent) ∧
      schema.Strays s.name owner parent) ∨
    ∃ found, result = .ok found := by
  -- Whatever is ahead of the parent is ahead of the struct, one step further.
  induction climbs with
  | again passed =>
    obtain ⟨c, hc, same⟩ := List.mem_map.mp passed
    exact .inl ⟨_, rfl, _, .refl, same ▸ below c hc⟩
  | root fresh top => exact .inr (.inr ⟨_, rfl⟩)
  | @unknown chain s parent fresh inherits unknown =>
    exact .inr (.inl ⟨s.name, parent, rfl, .refl, ⟨s, hs, rfl, inherits⟩, unknown⟩)
  | @up chain s next parent result fresh inherits found rest ih =>
    obtain ⟨mem, rfl⟩ := struct?_eq_some found
    have step : schema.Inherits s.name next.name := ⟨s, hs, rfl, inherits⟩
    have further : ∀ c ∈ s :: chain, TransGen schema.Inherits c.name next.name :=
      List.forall_mem_cons.mpr ⟨.single step, fun c hc => (below c hc).tail step⟩
    obtain ⟨cycle, same, again, path, circle⟩ | ⟨owner, parent, same, strays⟩ | ends :=
      ih mem further
    · exact .inl ⟨cycle, same, again, path.head step, circle⟩
    · exact .inr (.inl ⟨owner, parent, same, strays.path.head step, strays.inherits,
        strays.unknown⟩)
    · exact .inr (.inr ends)

/-- The three ways up, each with what the lineage reports of it. -/
theorem lineage_cases (found : schema.struct? name = some s) :
    (∃ cycle, schema.lineage name = .error (.circularDependency cycle) ∧ schema.Circles name) ∨
    (∃ owner parent, schema.lineage name = .error (.unknownParent owner parent) ∧
      schema.Strays name owner parent) ∨
    ∃ chain, schema.lineage name = .ok chain ∧ schema.Chain s chain := by
  obtain ⟨mem, rfl⟩ := struct?_eq_some found
  obtain circles | strays | ⟨chain, ends⟩ := (climbs_lineage found).ahead mem (by simp)
  · exact .inl circles
  · exact .inr (.inl strays)
  · exact .inr (.inr ⟨chain, ends, (lineage_eq_ok found ends).1⟩)

/-! ### Only one of them -/

section

variable (nodup : (schema.structs.map (·.name)).Nodup)
include nodup

/-- A struct has one parent at most. -/
theorem rightUnique_inherits : Relator.RightUnique schema.Inherits := by
  rintro name parent parent' ⟨s, hs, rfl, inherits⟩ ⟨s', hs', same, inherits'⟩
  cases List.inj_on_of_nodup_map nodup hs' hs same
  exact Option.some.inj (inherits.symm.trans inherits')

theorem not_inherits_of_struct? (unknown : schema.struct? name = none) (parent : String) :
    ¬ schema.Inherits name parent := by
  rintro ⟨s, hs, rfl, -⟩
  exact absurd (struct?_of_mem nodup hs) (unknown ▸ nofun)

/-- A chain begins with a struct without a parent. -/
theorem Chain.exists_root (up : schema.Chain s chain) (hs : s ∈ schema.structs) :
    ∃ top ∈ schema.structs, ReflTransGen schema.Inherits s.name top.name ∧
      ∀ parent, ¬ schema.Inherits top.name parent := by
  induction up with
  | @root s none_ =>
    refine ⟨s, hs, .refl, ?_⟩
    rintro parent ⟨s', hs', same, inherits⟩
    cases List.inj_on_of_nodup_map nodup hs' hs same
    cases none_.symm.trans inherits
  | @child s next parent chain inherits found _ ih =>
    obtain ⟨mem, rfl⟩ := struct?_eq_some found
    obtain ⟨top, htop, path, ends⟩ := ih mem
    exact ⟨top, htop, path.head ⟨s, hs, rfl, inherits⟩, ends⟩

/-- A way up that strays from the schema has an end, so it comes to nothing twice. -/
theorem Strays.not_circles (strays : schema.Strays name owner parent) :
    ¬ schema.Circles name := by
  rintro ⟨again, meets, circle⟩
  exact SingleWay.not_circle_of_end (rightUnique_inherits nodup)
    (strays.path.tail strays.inherits) (not_inherits_of_struct? nodup strays.unknown) meets circle

/-- So does the way up to a root. -/
theorem Chain.not_circles (up : schema.Chain s chain) (hs : s ∈ schema.structs) :
    ¬ schema.Circles s.name := by
  rintro ⟨again, meets, circle⟩
  obtain ⟨top, -, path, ends⟩ := up.exists_root nodup hs
  exact SingleWay.not_circle_of_end (rightUnique_inherits nodup) path ends meets circle

/-- All parents on the way up to a root are defined. -/
theorem Chain.not_strays (up : schema.Chain s chain) (hs : s ∈ schema.structs) :
    ¬ schema.Strays s.name owner parent := by
  intro strays
  obtain ⟨top, htop, path, ends⟩ := up.exists_root nodup hs
  have same : top.name = parent := SingleWay.end_unique (rightUnique_inherits nodup) path ends
    (strays.path.tail strays.inherits) (not_inherits_of_struct? nodup strays.unknown)
  have unknown := strays.unknown
  rw [← same, struct?_of_mem nodup htop] at unknown
  cases unknown

/-- A way up strays at one place only. -/
theorem Strays.unique {owner' parent' : String} (strays : schema.Strays name owner parent)
    (strays' : schema.Strays name owner' parent') : owner = owner' ∧ parent = parent' := by
  have single := rightUnique_inherits nodup
  have ends := not_inherits_of_struct? nodup strays.unknown
  obtain rfl : parent = parent' := SingleWay.end_unique single
    (strays.path.tail strays.inherits) ends (strays'.path.tail strays'.inherits)
    (not_inherits_of_struct? nodup strays'.unknown)
  exact ⟨SingleWay.owner_unique single strays.path strays.inherits strays'.path strays'.inherits
    ends, rfl⟩

/-- The chain of a struct has just the names that are reached from it. -/
theorem Chain.mem_names_iff (up : schema.Chain s chain) (hs : s ∈ schema.structs) :
    name ∈ chain.map (·.name) ↔ ReflTransGen schema.Inherits s.name name := by
  induction up with
  | @root s top =>
    -- Another struct of the same name would have to be the same struct.
    have ends : ∀ parent, ¬ schema.Inherits s.name parent := by
      rintro parent ⟨s', hs', same, inherits⟩
      cases List.inj_on_of_nodup_map nodup hs' hs same
      cases top.symm.trans inherits
    rw [List.map_singleton, List.mem_singleton]
    exact ⟨fun same => same ▸ .refl, fun path => (SingleWay.eq_of_end ends path).symm⟩
  | @child s next parent chain inherits found _ ih =>
    obtain ⟨mem, rfl⟩ := struct?_eq_some found
    have step : schema.Inherits s.name next.name := ⟨s, hs, rfl, inherits⟩
    rw [List.map_append, List.mem_append, ih mem, List.map_singleton, List.mem_singleton]
    constructor
    · rintro (path | rfl)
      · exact path.head step
      · exact .refl
    · intro path
      obtain same | ⟨parent, first, rest⟩ := path.cases_head
      · exact .inr same.symm
      · obtain rfl := rightUnique_inherits nodup step first
        exact .inl rest

/-! ### What the lineage reports -/

/-- Climbing reports a circle exactly if there is one ahead. -/
theorem lineage_circles_iff (found : schema.struct? name = some s) :
    (∃ cycle, schema.lineage name = .error (.circularDependency cycle)) ↔ schema.Circles name := by
  obtain ⟨mem, rfl⟩ := struct?_eq_some found
  obtain ⟨cycle, reports, circles⟩ | ⟨owner, parent, reports, strays⟩ | ⟨chain, reports, up⟩ :=
    lineage_cases found
  · exact iff_of_true ⟨cycle, reports⟩ circles
  · exact iff_of_false (by simp [reports]) (strays.not_circles nodup)
  · exact iff_of_false (by simp [reports]) (up.not_circles nodup mem)

/-- Climbing reports a parent that is not defined exactly if there is one ahead, and reports that
one. -/
theorem lineage_strays_iff (found : schema.struct? name = some s) :
    schema.lineage name = .error (.unknownParent owner parent) ↔
      schema.Strays name owner parent := by
  obtain ⟨mem, rfl⟩ := struct?_eq_some found
  obtain ⟨cycle, reports, circles⟩ | ⟨owner', parent', reports, strays⟩ | ⟨chain, reports, up⟩ :=
    lineage_cases found
  · exact iff_of_false (by simp [reports]) fun strays => strays.not_circles nodup circles
  · rw [reports]
    constructor
    · intro same
      cases same
      exact strays
    · intro strays'
      obtain ⟨rfl, rfl⟩ := strays.unique nodup strays'
      rfl
  · exact iff_of_false (by simp [reports]) (up.not_strays nodup mem)

/-- Climbing succeeds exactly if the way up comes to a root, and finds the structs on it. -/
theorem lineage_chain_iff (found : schema.struct? name = some s) :
    schema.lineage name = .ok chain ↔ schema.Chain s chain := by
  refine ⟨fun reports => (lineage_eq_ok found reports).1, fun up => ?_⟩
  obtain ⟨mem, rfl⟩ := struct?_eq_some found
  obtain ⟨cycle, -, circles⟩ | ⟨owner, parent, -, strays⟩ | ⟨chain', reports, up'⟩ :=
    lineage_cases found
  · exact absurd circles (up.not_circles nodup mem)
  · exact absurd strays (up.not_strays nodup mem)
  · rw [reports, up.unique up']

/-- A struct is among the descendants of another exactly if that one is in its lineage. -/
theorem mem_descendantsOf_iff_mem_lineage {other : String}
    (reports : schema.lineage name = .ok chain)
    (defined : other ∈ schema.structs.map (·.name)) :
    name ∈ schema.descendantsOf other ↔ other ∈ chain.map (·.name) := by
  rw [mem_descendantsOf]
  cases found : schema.struct? name with
  | none =>
    -- A name that is not defined has an empty lineage, and nothing above it.
    obtain rfl : [] = chain := by simpa [lineage, found] using reports
    refine iff_of_false (fun path => ?_) List.not_mem_nil
    obtain rfl := SingleWay.eq_of_end (not_inherits_of_struct? nodup found) path
    obtain ⟨s, hs, same⟩ := List.mem_map.mp defined
    rw [← same, struct?_of_mem nodup hs] at found
    cases found
  | some s =>
    obtain ⟨mem, rfl⟩ := struct?_eq_some found
    exact ((lineage_eq_ok found reports).1.mem_names_iff nodup mem).symm

end

/-- What is known of the walks along the inheritance of a schema. -/
structure WalksEnd (schema : SchemaSet) : Prop where
  /-- Gathering the descendants of a name ends, also of one that is not defined. -/
  descendants_end : ∀ name, schema.Grows 0 [name] (schema.descendantsOf name)
  descendants_head : ∀ name, (schema.descendantsOf name).head? = some name
  descendants_nodup : ∀ name, (schema.descendantsOf name).Nodup
  mem_descendants : ∀ name heir, heir ∈ schema.descendantsOf name ↔
    heir = name ∨ TransGen schema.Inherits heir name
  /-- The way up from a struct ends. -/
  lineage_ends : ∀ name s, schema.struct? name = some s →
    schema.Climbs [] s (schema.lineage name)
  lineage_undefined : ∀ name, schema.struct? name = none → schema.lineage name = .ok []
  lineage_circles : ∀ name s, schema.struct? name = some s →
    ((∃ cycle, schema.lineage name = .error (.circularDependency cycle)) ↔ schema.Circles name)
  lineage_strays : ∀ name s, schema.struct? name = some s → ∀ owner parent,
    (schema.lineage name = .error (.unknownParent owner parent) ↔
      schema.Strays name owner parent)
  lineage_chain : ∀ name s, schema.struct? name = some s → ∀ chain,
    (schema.lineage name = .ok chain ↔ schema.Chain s chain)
  /-- There is no fourth way. -/
  ways_up : ∀ name s, schema.struct? name = some s →
    schema.Circles name ∨ (∃ owner parent, schema.Strays name owner parent) ∨
      ∃ chain, schema.Chain s chain
  dual : ∀ name chain, schema.lineage name = .ok chain →
    ∀ other ∈ schema.structs.map (·.name),
      (name ∈ schema.descendantsOf other ↔ other ∈ chain.map (·.name))

end SchemaSet

/-- In every schema that was resolved, circles and unknown parents included, both walks along
inheritance end. The descendants of a name are the name and the structs from which it is reached,
each once. The lineage of a struct reports a circle if the way up comes to some struct again, an
unknown parent if it leaves the schema, and else is the chain from the root down. Where there is a
lineage, it has just those structs of which the name is a descendant. -/
theorem inheritance_walks_end {groups : List DefinitionGroup} {schema : SchemaSet}
    (resolved : SchemaSet.resolve groups = .ok schema) : schema.WalksEnd := by
  have nodup := SchemaSet.nodup_names_of_resolve resolved
  exact
    { descendants_end := schema.grows_descendantsOf
      descendants_head := schema.head?_descendantsOf
      descendants_nodup := schema.nodup_descendantsOf
      mem_descendants := by
        intro name heir
        rw [SchemaSet.mem_descendantsOf, Relation.reflTransGen_iff_eq_or_transGen, eq_comm]
      lineage_ends := fun _ _ => SchemaSet.climbs_lineage
      lineage_undefined := by
        intro name unknown
        rw [SchemaSet.lineage, unknown]
      lineage_circles := fun _ _ => SchemaSet.lineage_circles_iff nodup
      lineage_strays := fun _ _ found _ _ => SchemaSet.lineage_strays_iff nodup found
      lineage_chain := fun _ _ found _ => SchemaSet.lineage_chain_iff nodup found
      ways_up := by
        intro name s found
        obtain ⟨_, -, circles⟩ | ⟨owner, parent, -, strays⟩ | ⟨chain, -, up⟩ :=
          SchemaSet.lineage_cases found
        · exact .inl circles
        · exact .inr (.inl ⟨owner, parent, strays⟩)
        · exact .inr (.inr ⟨chain, up⟩)
      dual := fun _ _ reports _ defined =>
        SchemaSet.mem_descendantsOf_iff_mem_lineage nodup reports defined }

/-- An empty struct with the given parent. -/
def heirOf (parent : Option String) (name : String) : Definition :=
  .struct { name, inherits := parent, fields := [], size := 0 }

/-- Three generations, two structs that are each the parent of the other with an heir of one of
them, and an heir of a struct that is not defined with an heir of its own. -/
def families : List DefinitionGroup :=
  [{ name := "families"
     definitions :=
      [heirOf none "Object", heirOf "Unit" "Vehicle", heirOf "Object" "Unit",
       heirOf "Tail" "Head", heirOf "Head" "Tail", heirOf "Tail" "Scale",
       heirOf "Nowhere" "Stray", heirOf "Stray" "Pup"] }]

theorem inheritance_walks_end_families :
    ∃ schema, SchemaSet.resolve families = .ok schema ∧
      schema.descendantsOf "Object" = ["Object", "Unit", "Vehicle"] ∧
      schema.descendantsOf "Head" = ["Head", "Tail", "Scale"] ∧
      schema.Circles "Scale" ∧ schema.Strays "Pup" "Stray" "Nowhere" ∧
      ∃ chain, schema.lineage "Vehicle" = .ok chain ∧
        chain.map (·.name) = ["Object", "Unit", "Vehicle"] ∧
        "Vehicle" ∈ schema.descendantsOf "Unit" := by
  obtain ⟨schema, resolved, objects, heads, ⟨scale, foundScale, scales⟩, ⟨pup, foundPup, pups⟩,
      chain, vehicles, names, defined⟩ :
      ∃ schema, SchemaSet.resolve families = .ok schema ∧
        schema.descendantsOf "Object" = ["Object", "Unit", "Vehicle"] ∧
        schema.descendantsOf "Head" = ["Head", "Tail", "Scale"] ∧
        (∃ s, schema.struct? "Scale" = some s ∧ schema.lineage "Scale" =
          .error (.circularDependency ["Scale", "Tail", "Head"])) ∧
        (∃ s, schema.struct? "Pup" = some s ∧ schema.lineage "Pup" =
          .error (.unknownParent "Stray" "Nowhere")) ∧
        ∃ chain, schema.lineage "Vehicle" = .ok chain ∧
          chain.map (·.name) = ["Object", "Unit", "Vehicle"] ∧
          "Unit" ∈ schema.structs.map (·.name) :=
    ⟨_, rfl, rfl, rfl, ⟨_, rfl, rfl⟩, ⟨_, rfl, rfl⟩, _, rfl, rfl, by decide⟩
  -- The walks are evaluated above; what they mean is read off the theorem.
  have walks := inheritance_walks_end resolved
  refine ⟨schema, resolved, objects, heads, ?_, ?_, chain, vehicles, names, ?_⟩
  · exact (walks.lineage_circles _ _ foundScale).mp ⟨_, scales⟩
  · exact (walks.lineage_strays _ _ foundPup _ _).mp pups
  · rw [walks.dual _ _ vehicles _ defined, names]
    decide

end TagSchema
