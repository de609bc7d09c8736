import TagSchema.Proofs.Schema.Acceptance
import TagSchema.Proofs.Schema.Resolving
import TagSchema.Schema.Lineage

/-!
# Ancestors and descendants

The descendants of a struct are listed by going through a list that grows on the way. `Grows` says
how that goes without a bound, so that a derivation is a walk that ends. The bound of the definition
suffices to pass everything (`Growth.grows`), and what was passed has all its children in the list
(`Growth.closed`), so the list has exactly the structs that inherit at any remove
(`mem_descendantsOf`).

The way up ends in the chain of inheritance, which needs no bound (`Chain`). A struct has at most
one, and it starts with the chain of each of its ancestors (`Chain.isPrefix`).
-/

namespace TagSchema

open Relation (ReflTransGen)

namespace SchemaSet

variable {schema : SchemaSet} {root name : String} {position : Nat} {found : List String}

/-! ### Descendants -/

theorem mem_childrenOf {child : String} :
    child ∈ schema.childrenOf name ↔ schema.Inherits child name := by
  simp only [childrenOf, List.mem_map, List.mem_filter, decide_eq_true_eq, Inherits]
  refine exists_congr fun s => ?_
  rw [and_assoc, and_comm (a := s.inherits = some name)]

/-- A list of descendants of which those before a position have all their children in the list. -/
structure Growth (schema : SchemaSet) (root : String) (position : Nat) (found : List String) :
    Prop where
  start : root ∈ found
  nodup : found.Nodup
  sound : ∀ name ∈ found, ReflTransGen schema.Inherits name root
  closed : ∀ (i : Nat) (name : String), i < position → found[i]? = some name →
    ∀ child, schema.Inherits child name → child ∈ found

/-- There is room in the list for the root and every struct. -/
theorem Growth.length_le (growth : Growth schema root position found) :
    found.length ≤ schema.structs.length + 1 := by
  have known : found ⊆ root :: schema.structs.map (·.name) := by
    intro name h
    obtain rfl | ⟨parent, ⟨s, hs, rfl, -⟩, -⟩ :=
      Relation.ReflTransGen.cases_head (growth.sound name h)
    · exact List.mem_cons_self
    · exact List.mem_cons_of_mem _ (List.mem_map_of_mem hs)
  simpa using (growth.nodup.subperm known).length_le

/-- Passing one struct. -/
theorem Growth.step (growth : Growth schema root position found)
    (here : found[position]? = some name) :
    Growth schema root (position + 1) ((schema.childrenOf name).foldl ClassTable.insertNew found)
    where
  start := ClassTable.mem_foldl_insertNew.mpr (.inl growth.start)
  nodup := ClassTable.nodup_foldl_insertNew growth.nodup
  sound := by
    intro added h
    obtain before | child := ClassTable.mem_foldl_insertNew.mp h
    · exact growth.sound added before
    · exact .head (mem_childrenOf.mp child) (growth.sound name (List.mem_of_getElem? here))
  closed := by
    intro i passed hi hpassed child inherits
    rw [ClassTable.mem_foldl_insertNew]
    -- What was in the list keeps its position.
    have kept : found[i]? = some passed := by
      have inside : i < found.length := by
        have := (List.getElem?_eq_some_iff.mp here).1
        omega
      rwa [List.prefix_iff_getElem?.mp ClassTable.isPrefix_foldl_insertNew i inside,
        ← List.getElem?_eq_getElem inside] at hpassed
    obtain before | rfl := Nat.lt_succ_iff_lt_or_eq.mp hi
    · exact .inl (growth.closed i passed before kept child inherits)
    · cases here.symm.trans kept
      exact .inr (mem_childrenOf.mpr inherits)

/-- When everything was passed, every heir of the root is in the list. -/
theorem Growth.complete (growth : Growth schema root position found)
    (passed : found.length ≤ position) (path : ReflTransGen schema.Inherits name root) :
    name ∈ found := by
  induction path using Relation.ReflTransGen.head_induction_on with
  | refl => exact growth.start
  | head inherits _ ih =>
    obtain ⟨i, hi⟩ := List.mem_iff_getElem?.mp ih
    have inside : i < found.length := (List.getElem?_eq_some_iff.mp hi).1
    exact growth.closed i _ (by omega) hi _ inherits

/-- Goes through a list of names from a position on, appending the children of each that are not in
it yet: `Grows schema position found result` if that ends with the given result. -/
inductive Grows (schema : SchemaSet) : Nat → List String → List String → Prop
  | done {position : Nat} {found : List String} (passed : found.length ≤ position) :
      Grows schema position found found
  | pass {position : Nat} {found result : List String} {name : String}
      (here : found[position]? = some name)
      (rest : Grows schema (position + 1)
        ((schema.childrenOf name).foldl ClassTable.insertNew found) result) :
      Grows schema position found result

/-- With room for every struct, the bounded walk ends by itself. -/
theorem Growth.grows {fuel : Nat} (growth : Growth schema root position found)
    (room : schema.structs.length + 1 < fuel + position) :
    schema.Grows position found (schema.growDescendants fuel position found) := by
  induction fuel generalizing position found with
  | zero =>
    have := growth.length_le
    exact .done (by omega)
  | succ fuel ih =>
    rw [growDescendants]
    cases here : found[position]? with
    | none => exact .done (List.getElem?_eq_none_iff.mp here)
    | some name => exact .pass here (ih (growth.step here) (by omega))

/-- A walk that ends has passed everything. -/
theorem Grows.growth {result : List String} (grows : schema.Grows position found result)
    (growth : Growth schema root position found) :
    ∃ last, Growth schema root last result ∧ result.length ≤ last := by
  induction grows with
  | @done position found passed => exact ⟨position, growth, passed⟩
  | pass here _ ih => exact ih (growth.step here)

/-- What is in the list keeps its place. -/
theorem Grows.isPrefix {result : List String} (grows : schema.Grows position found result) :
    found <+: result := by
  induction grows with
  | done => exact List.prefix_refl _
  | pass _ _ ih => exact ClassTable.isPrefix_foldl_insertNew.trans ih

theorem growth_root (schema : SchemaSet) (root : String) : Growth schema root 0 [root] where
  start := List.mem_singleton_self root
  nodup := List.nodup_singleton root
  sound := fun _ h => List.mem_singleton.mp h ▸ .refl
  closed := fun i _ hi => absurd hi (Nat.not_lt_zero i)

theorem grows_descendantsOf (schema : SchemaSet) (root : String) :
    schema.Grows 0 [root] (schema.descendantsOf root) :=
  (growth_root schema root).grows (by omega)

theorem growth_descendantsOf (schema : SchemaSet) (root : String) :
    ∃ last, Growth schema root last (schema.descendantsOf root) ∧
      (schema.descendantsOf root).length ≤ last :=
  (grows_descendantsOf schema root).growth (growth_root schema root)

/-- A struct comes before its heirs. -/
theorem head?_descendantsOf (schema : SchemaSet) (root : String) :
    (schema.descendantsOf root).head? = some root := by
  obtain ⟨heirs, same⟩ := (grows_descendantsOf schema root).isPrefix
  rw [← same]
  rfl

/-- No descendant is listed twice. -/
theorem nodup_descendantsOf (schema : SchemaSet) (root : String) :
    (schema.descendantsOf root).Nodup := by
  obtain ⟨_, growth, -⟩ := growth_descendantsOf schema root
  exact growth.nodup

/-- The descendants of a struct are the struct and what inherits from it at any remove. -/
theorem mem_descendantsOf :
    name ∈ schema.descendantsOf root ↔ ReflTransGen schema.Inherits name root := by
  obtain ⟨_, growth, passed⟩ := growth_descendantsOf schema root
  exact ⟨growth.sound name, growth.complete passed⟩

/-! ### Chains of inheritance -/

/-- The structs from one without a parent down to the given one, each the parent of the next. -/
inductive Chain (schema : SchemaSet) : ResolvedStruct → List ResolvedStruct → Prop
  | root {s : ResolvedStruct} (top : s.inherits = none) : Chain schema s [s]
  | child {s parent : ResolvedStruct} {name : String} {chain : List ResolvedStruct}
      (inherits : s.inherits = some name) (found : schema.struct? name = some parent)
      (above : Chain schema parent chain) : Chain schema s (chain ++ [s])

variable {s t : ResolvedStruct} {chain chain' : List ResolvedStruct}

/-- The way up puts the chain of a struct before what was passed, and nothing comes twice. -/
theorem climb_eq_ok {fuel : Nat} {below : List ResolvedStruct}
    (h : schema.climb fuel below s = .ok chain) :
    ∃ above, Chain schema s above ∧ chain = above ++ below ∧
      ((below.map (·.name)).Nodup → (chain.map (·.name)).Nodup) := by
  -- What is below is in the chain already, and a struct that is in it is not climbed to again.
  induction fuel generalizing below s with
  | zero => cases h
  | succ fuel ih =>
    rw [climb] at h
    split at h
    · cases h
    · rename_i fresh
      have distinct : (below.map (·.name)).Nodup → ((s :: below).map (·.name)).Nodup := by
        intro nodup
        refine List.nodup_cons.mpr ⟨fun again => fresh ?_, nodup⟩
        simpa using again
      cases inherits : s.inherits with
      | none =>
        rw [inherits] at h
        cases h
        exact ⟨[s], .root inherits, rfl, distinct⟩
      | some name =>
        rw [inherits] at h
        dsimp only at h
        cases found : schema.struct? name with
        | none =>
          rw [found] at h
          cases h
        | some parent =>
          rw [found] at h
          obtain ⟨above, up, rfl, nodup⟩ := ih h
          exact ⟨above ++ [s], .child inherits found up, by simp, fun hb => nodup (distinct hb)⟩

/-- The ancestors of a struct are its chain, and no name comes twice. -/
theorem lineage_eq_ok (found : schema.struct? name = some s)
    (h : schema.lineage name = .ok chain) :
    Chain schema s chain ∧ (chain.map (·.name)).Nodup := by
  rw [lineage, found] at h
  obtain ⟨above, up, rfl, nodup⟩ := climb_eq_ok h
  rw [List.append_nil] at nodup ⊢
  exact ⟨up, nodup List.nodup_nil⟩

namespace Chain

theorem self_mem (up : Chain schema s chain) : s ∈ chain := by
  cases up <;> simp

theorem unique (up : Chain schema s chain) (up' : Chain schema s chain') : chain = chain' := by
  induction up generalizing chain' with
  | root top =>
    cases up' with
    | root => rfl
    | child inherits => cases top.symm.trans inherits
  | child inherits found _ ih =>
    cases up' with
    | root top => cases top.symm.trans inherits
    | child inherits' found' above' =>
      cases inherits.symm.trans inherits'
      cases found.symm.trans found'
      rw [ih above']

/-- What is above a struct of the schema belongs to the schema. -/
theorem subset_structs (up : Chain schema s chain) (hs : s ∈ schema.structs) :
    chain ⊆ schema.structs := by
  induction up with
  | root => simpa using hs
  | child _ found _ ih =>
    exact List.append_subset.mpr ⟨ih (struct?_eq_some found).1, by simpa using hs⟩

/-- The chain of an heir starts with the chain of its ancestor. -/
theorem isPrefix (nodup : (schema.structs.map (·.name)).Nodup) (up : Chain schema s chain)
    (hs : s ∈ schema.structs) (up' : Chain schema t chain') (ht : t ∈ schema.structs)
    (path : ReflTransGen schema.Inherits s.name t.name) : chain' <+: chain := by
  -- A way up from a struct either stays there or begins with its only parent.
  induction up with
  | @root s top =>
    obtain same | ⟨parent, ⟨s', hs', same, inherits⟩, -⟩ :=
      Relation.ReflTransGen.cases_head path
    · cases List.inj_on_of_nodup_map nodup hs ht same
      exact (Chain.root top).unique up' ▸ List.prefix_refl _
    · cases List.inj_on_of_nodup_map nodup hs' hs same
      cases top.symm.trans inherits
  | @child s next parent chain inherits found above ih =>
    obtain same | ⟨name, ⟨s', hs', same, inherits'⟩, rest⟩ :=
      Relation.ReflTransGen.cases_head path
    · cases List.inj_on_of_nodup_map nodup hs ht same
      exact (Chain.child inherits found above).unique up' ▸ List.prefix_refl _
    · cases List.inj_on_of_nodup_map nodup hs' hs same
      cases inherits.symm.trans inherits'
      obtain ⟨mem, rfl⟩ := struct?_eq_some found
      exact (ih mem rest).trans (List.prefix_append chain [s])

end Chain

end SchemaSet

end TagSchema
