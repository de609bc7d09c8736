import TagSchema.Proofs.Schema.EmissionOrder

/-!
# Which schemas have an emission order

A schema is legal if every parent is defined and inheritance runs in no circle. An order makes a
schema legal (`Legal.acyclic`), but not every listing of a legal schema has an order. A struct that
needs one of its heirs, through an array of its own or of what it needs, has to be met through the
heir: when the struct is listed first, the heir is entered while the struct is open, and asks for it
as a parent (`Run.heir_fails`). Without such a struct every listing has an order (`Run.accepts`).
-/

namespace TagSchema

open Relation (TransGen ReflTransGen)

/-! ### Legal schemas -/

namespace SchemaSet

/-- A struct of the schema names a parent. -/
def Inherits (schema : SchemaSet) (owner parent : String) : Prop :=
  ∃ s ∈ schema.structs, s.name = owner ∧ s.inherits = some parent

/-- Every parent is defined, and no struct is its own ancestor. Arrays do not matter. -/
structure IsLegal (schema : SchemaSet) : Prop where
  parents : ∀ owner parent, schema.Inherits owner parent → parent ∈ schema.structs.map (·.name)
  acyclic : ∀ name, ¬ TransGen schema.Inherits name name

/-- Some struct needs one of its own children, so it holds it in an array somewhere on the way. -/
def NeedsOwnHeir (schema : SchemaSet) : Prop :=
  ∃ child parent, schema.Inherits child parent ∧ TransGen schema.Needs parent child

variable {schema : SchemaSet} {structs : List ResolvedStruct}

/-- Who inherits from whom does not depend on the order of the structs. -/
theorem inherits_perm (perm : structs.Perm schema.structs) :
    Inherits { schema with structs } = Inherits schema := by
  ext owner parent
  simp only [Inherits, perm.mem_iff]

/-- Nor does who needs whom. -/
theorem needs_perm (perm : structs.Perm schema.structs) :
    Needs { schema with structs } = Needs schema := by
  ext owner needed
  simp only [Needs, perm.mem_iff]

/-- Being legal does not depend on how the structs are listed. -/
theorem isLegal_perm (perm : structs.Perm schema.structs) :
    IsLegal { schema with structs } ↔ IsLegal schema := by
  have names : ∀ name, name ∈ structs.map (·.name) ↔ name ∈ schema.structs.map (·.name) :=
    fun name => (perm.map _).mem_iff
  constructor
  · rintro ⟨parents, acyclic⟩
    rw [inherits_perm perm] at parents acyclic
    exact ⟨fun owner parent h => (names parent).mp (parents owner parent h), acyclic⟩
  · rintro ⟨parents, acyclic⟩
    refine ⟨?_, ?_⟩
    · rw [inherits_perm perm]
      exact fun owner parent h => (names parent).mpr (parents owner parent h)
    · rwa [inherits_perm perm]

/-- Nor does whether a struct needs one of its heirs. -/
theorem needsOwnHeir_perm (perm : structs.Perm schema.structs) :
    NeedsOwnHeir { schema with structs } ↔ NeedsOwnHeir schema := by
  simp only [NeedsOwnHeir, inherits_perm perm, needs_perm perm]

end SchemaSet

namespace LayoutGraph

variable {nodes : List GraphNode} {visiting placed order : List String} {name : String}
  {node : GraphNode} {todo : List (GraphEdge × String)}

/-- A struct of the graph names a parent. -/
def Inherits (nodes : List GraphNode) (owner parent : String) : Prop :=
  ∃ node, find? nodes owner = some node ∧ node.inherits = some parent

/-- A struct needs its parent. -/
theorem Inherits.needs {owner parent : String} (h : Inherits nodes owner parent) :
    Needs nodes owner parent := by
  obtain ⟨node, found, inherits⟩ := h
  exact ⟨node, found, .inherits, List.mem_append_left _ (by simpa using inherits)⟩

/-- What needs something is defined. -/
theorem Needs.defined {owner needed : String} (h : Needs nodes owner needed) :
    find? nodes owner ≠ none := by
  obtain ⟨node, found, -⟩ := h
  exact found ▸ Option.some_ne_none node

/-- What a node needs as a parent is its parent. -/
theorem inherits_of_mem_needs (found : find? nodes name = some node) {parent : String}
    (h : (GraphEdge.inherits, parent) ∈ node.needs) : Inherits nodes name parent := by
  refine ⟨node, found, ?_⟩
  simpa [GraphNode.needs] using h

/-- Nothing is needed as a root. -/
theorem root_notMem_needs : (GraphEdge.root, name) ∉ node.needs := by
  simp [GraphNode.needs]

/-! ### A legal order makes a legal graph -/

/-- Parents are in a legal order with their children. -/
theorem Legal.inherits_mem (legal : Legal nodes order) (h : name ∈ order) {parent : String}
    (inherits : Inherits nodes name parent) : parent ∈ order := by
  obtain ⟨node, found, hparent⟩ := inherits
  obtain ⟨earlier, isPrefix, possible⟩ := legal.placeable found h
  exact isPrefix.subset (List.mem_append_left _ (possible.parent parent hparent))

/-- All ancestors of what is in a legal order are in it. -/
theorem Legal.ancestor_mem (legal : Legal nodes order) (h : name ∈ order) {ancestor : String}
    (path : ReflTransGen (Inherits nodes) name ancestor) : ancestor ∈ order := by
  induction path with
  | refl => exact h
  | tail _ last ih => exact legal.inherits_mem ih last

/-- No struct of a legal order is its own ancestor: its ancestors come before it. -/
theorem Legal.acyclic (legal : Legal nodes order) (h : name ∈ order) :
    ¬ TransGen (Inherits nodes) name name := by
  induction legal with
  | nil => cases h
  | @snoc order last lastNode legal found placeable ih =>
    by_cases before : name ∈ order
    · exact ih before
    obtain rfl := List.mem_singleton.mp ((List.mem_append.mp h).resolve_left before)
    intro circle
    obtain ⟨parent, ⟨node, foundNode, inherits⟩, path⟩ := Relation.TransGen.head'_iff.mp circle
    cases found.symm.trans foundNode
    exact before (legal.ancestor_mem (placeable.parent parent inherits) path)

/-! ### Without an own heir no visit fails -/

/-- What is still to do is needed by the last struct on the way, which all those before it need. At
the top there is no way. -/
def OnWay (nodes : List GraphNode) (visiting : List String) (todo : List (GraphEdge × String)) :
    Prop :=
  visiting = [] ∨ ∃ owner node, find? nodes owner = some node ∧ todo ⊆ node.needs ∧
    ∀ v ∈ visiting, ReflTransGen (Needs nodes) v owner

/-- What is on the way stays so for the needs that are left. -/
theorem OnWay.tail {need : GraphEdge × String} (way : OnWay nodes visiting (need :: todo)) :
    OnWay nodes visiting todo := by
  obtain top | ⟨owner, node, found, needs, path⟩ := way
  · exact .inl top
  · exact .inr ⟨owner, node, found, fun _ h => needs (List.mem_cons_of_mem _ h), path⟩

/-- Entering a struct. -/
theorem OnWay.enter {edge : GraphEdge} (way : OnWay nodes visiting ((edge, name) :: todo))
    (found : find? nodes name = some node) : OnWay nodes (visiting ++ [name]) node.needs := by
  refine .inr ⟨name, node, found, List.Subset.refl _, fun v hv => ?_⟩
  obtain before | same := List.mem_append.mp hv
  · obtain rfl | ⟨owner, ownerNode, foundOwner, needs, path⟩ := way
    · cases before
    · exact (path v before).tail ⟨ownerNode, foundOwner, edge, needs List.mem_cons_self⟩
  · rw [List.mem_singleton.mp same]

/-- A struct that is on the way and needed otherwise than as an element needs an heir of its own. -/
theorem OnWay.ownHeir {edge : GraphEdge} (way : OnWay nodes visiting ((edge, name) :: todo))
    (visited : name ∈ visiting) (required : edge ≠ .contains) :
    ∃ child, Inherits nodes child name ∧ TransGen (Needs nodes) name child := by
  obtain rfl | ⟨owner, node, found, needs, path⟩ := way
  · cases visited
  cases edge with
  | root => exact absurd (needs List.mem_cons_self) root_notMem_needs
  | contains => exact absurd rfl required
  | inherits =>
    have inherits := inherits_of_mem_needs found (needs List.mem_cons_self)
    refine ⟨owner, inherits, ?_⟩
    obtain same | path := Relation.reflTransGen_iff_eq_or_transGen.mp (path name visited)
    · subst same
      exact .single inherits.needs
    · exact path

/-- Where parents are defined and no struct needs its own heir, every run ends with an order. -/
theorem Run.accepts {result : Except SchemaError (List String)}
    (run : Run nodes visiting placed todo result)
    (known : ∀ owner parent, Inherits nodes owner parent → find? nodes parent ≠ none)
    (apart : ∀ child parent, Inherits nodes child parent → ¬ TransGen (Needs nodes) parent child)
    (way : OnWay nodes visiting todo) : ∃ order, result = .ok order := by
  induction run with
  | done visiting placed => exact ⟨placed, rfl⟩
  | pass settled run ih => exact ih way.tail
  | cycle fresh found visited required =>
    obtain ⟨child, inherits, path⟩ := way.ownHeir visited required
    exact absurd path (apart child _ inherits)
  | unknownParent fresh found unvisited inherits unknown =>
    exact absurd unknown (known _ _ ⟨_, found, inherits⟩)
  | fail fresh found unvisited _ visit ih =>
    obtain ⟨order, failed⟩ := ih (way.enter found)
    cases failed
  | place fresh found unvisited _ visit run ihVisit ihRun => exact ihRun way.tail

/-! ### A struct that is entered before the heir it needs -/

/-- What is on the way is not placed before it is left. -/
theorem Run.notMem_of_visiting {result : Except SchemaError (List String)}
    (run : Run nodes visiting placed todo result) (ends : result = .ok order)
    (visited : name ∈ visiting) (fresh : name ∉ placed) : name ∉ order := by
  induction run generalizing order with
  | done =>
    cases ends
    exact fresh
  | pass settled run ih => exact ih ends visited fresh
  | cycle => cases ends
  | unknownParent => cases ends
  | fail => cases ends
  | @place visiting placed placed' edge entered rest node result _ found unvisited known visit run
      ihVisit ihRun =>
    -- A struct on the way is not placed by the visits in between.
    have unplaced : name ∉ placed' := ihVisit rfl (List.mem_append_left _ visited) fresh
    refine ihRun ends visited fun h => ?_
    obtain earlier | rfl := ClassTable.mem_insertNew.mp h
    · exact unplaced earlier
    · exact unvisited visited

/-- Whatever a placed struct needs and is defined is placed too, or on the way. -/
def Closed (nodes : List GraphNode) (visiting placed : List String) : Prop :=
  ∀ owner ∈ placed, ∀ needed, Needs nodes owner needed → find? nodes needed ≠ none →
    needed ∈ placed ∨ needed ∈ visiting

/-- A node that is entered is one more exception: what it needs may not be placed yet. -/
theorem Closed.enter (closed : Closed nodes visiting placed) :
    Closed nodes (visiting ++ [name]) placed :=
  fun owner h needed needs defined =>
    (closed owner h needed needs defined).imp_right (List.mem_append_left _)

/-- Placing the struct that is left. -/
theorem Closed.leave (closed : Closed nodes (visiting ++ [name]) placed)
    (own : ∀ needed, Needs nodes name needed → find? nodes needed ≠ none →
      needed ∈ placed ∨ needed ∈ visiting ++ [name]) :
    Closed nodes visiting (ClassTable.insertNew placed name) := by
  intro owner h needed needs defined
  have settled : needed ∈ placed ∨ needed ∈ visiting ++ [name] := by
    obtain before | rfl := ClassTable.mem_insertNew.mp h
    · exact closed owner before needed needs defined
    · exact own needed needs defined
  rw [ClassTable.mem_insertNew]
  simp only [List.mem_append, List.mem_singleton] at settled
  tauto

/-- A run keeps what is placed closed. -/
theorem Run.closed {result : Except SchemaError (List String)}
    (run : Run nodes visiting placed todo result) (ends : result = .ok order)
    (start : Closed nodes visiting placed) : Closed nodes visiting order := by
  induction run generalizing order with
  | done =>
    cases ends
    exact start
  | pass settled run ih => exact ih ends start
  | cycle => cases ends
  | unknownParent => cases ends
  | fail => cases ends
  | place fresh found unvisited known visit run ihVisit ihRun =>
    refine ihRun ends ((ihVisit rfl start.enter).leave fun needed needs defined => ?_)
    obtain ⟨node, foundNode, edge, need⟩ := needs
    cases found.symm.trans foundNode
    exact ((visit.settles rfl).2 _ need defined).imp_right And.left

/-- The visit of a struct at the top places all that the struct needs, at any remove. -/
theorem Run.reachable_mem (found : find? nodes name = some node)
    (visit : Run nodes [name] [] node.needs (.ok order)) {needed : String}
    (path : TransGen (Needs nodes) name needed) (defined : find? nodes needed ≠ none) :
    needed ∈ order ∨ needed = name := by
  have closed : Closed nodes [name] order := visit.closed rfl (by simp [Closed])
  have own : ∀ needed, Needs nodes name needed → find? nodes needed ≠ none →
      needed ∈ order ∨ needed ∈ [name] := by
    rintro needed ⟨_, foundNode, edge, need⟩ defined
    cases found.symm.trans foundNode
    exact ((visit.settles rfl).2 _ need defined).imp_right And.left
  rw [← List.mem_singleton]
  induction path with
  | single first => exact own _ first defined
  | @tail middle needed _ last ih =>
    obtain placed | same := ih last.defined
    · exact closed middle placed needed last defined
    · exact own needed (List.mem_singleton.mp same ▸ last) defined

/-- A struct that needs its own heir has no order in which it is the first root. -/
theorem Run.heir_fails {child : String} (inherits : Inherits nodes child name)
    (path : TransGen (Needs nodes) name child)
    (run : Run nodes [] [] ((.root, name) :: todo) (.ok order)) : False := by
  have defined : find? nodes child ≠ none := inherits.needs.defined
  obtain ⟨_, ⟨node, found, -⟩, -⟩ := Relation.TransGen.head'_iff.mp path
  cases run with
  | pass settled run =>
    obtain placed | unknown | ⟨visited, -⟩ := settled
    · cases placed
    · cases found.symm.trans unknown
    · cases visited
  | @place _ _ placed' _ _ _ entered _ _ foundEntered _ known visit run =>
    cases found.symm.trans foundEntered
    have unplaced : name ∉ placed' :=
      visit.notMem_of_visiting rfl List.mem_cons_self List.not_mem_nil
    obtain placed | rfl := visit.reachable_mem found path defined
    · -- The heir was placed during the visit, so its parent was placed before it.
      have way : ∀ v ∈ [] ++ [name], ∀ need ∈ node.needs, TransGen (Needs nodes) v need.2 := by
        intro v hv need hneed
        rw [List.mem_singleton.mp hv]
        exact .single ⟨node, found, need.1, hneed⟩
      obtain ⟨legal, -⟩ := visit.legal rfl .nil way
      exact unplaced (legal.inherits_mem placed inherits)
    · obtain ⟨_, foundNode, isParent⟩ := inherits
      cases found.symm.trans foundNode
      have need : (GraphEdge.inherits, child) ∈ node.needs :=
        List.mem_append_left _ (by simpa using isParent)
      obtain placed | ⟨-, isElement⟩ := (visit.settles rfl).2 _ need defined
      · exact unplaced placed
      · cases isElement

end LayoutGraph

/-! ### The graph of a schema -/

namespace SchemaSet

open LayoutGraph

variable {schema : SchemaSet}

/-- Nodes need each other as their structs do. -/
theorem needs_build_iff (nodup : (schema.structs.map (·.name)).Nodup) {owner needed : String} :
    LayoutGraph.Needs (build schema) owner needed ↔ schema.Needs owner needed := by
  refine ⟨needs_of_needs_build, ?_⟩
  rintro ⟨s, hs, rfl, need⟩
  obtain parent | ⟨field, hfield, element⟩ := need
  · exact ⟨_, find?_build_of_mem nodup hs, .inherits,
      List.mem_append_left _ (by simpa [nodeOf] using parent)⟩
  · exact ⟨_, find?_build_of_mem nodup hs, .contains, List.mem_append_right _
      (List.mem_map_of_mem (mem_elements_nodeOf.mpr ⟨field, hfield, element⟩))⟩

/-- Nodes inherit from each other as their structs do. -/
theorem inherits_build_iff (nodup : (schema.structs.map (·.name)).Nodup) {owner parent : String} :
    LayoutGraph.Inherits (build schema) owner parent ↔ schema.Inherits owner parent := by
  constructor
  · rintro ⟨node, found, inherits⟩
    rw [find?_build] at found
    obtain ⟨s, hs, rfl⟩ := Option.map_eq_some_iff.mp found
    exact ⟨s, List.mem_of_find?_eq_some hs, by simpa using List.find?_some hs, inherits⟩
  · rintro ⟨s, hs, rfl, inherits⟩
    exact ⟨_, find?_build_of_mem nodup hs, inherits⟩

theorem find?_build_ne_none {name : String} :
    find? (build schema) name ≠ none ↔ name ∈ schema.structs.map (·.name) := by
  simp [find?_build, struct?]

/-- The order of a schema is a legal one and has every struct. -/
theorem legal_of_emissionOrder {order : List String} (ends : emissionOrder schema = .ok order) :
    Legal (build schema) order ∧ ∀ name ∈ schema.structs.map (·.name), name ∈ order := by
  obtain ⟨legal, -, all⟩ := (run_topologicalOrder (build schema)).legal ends .nil (by simp)
  refine ⟨legal, fun name h => ?_⟩
  have need : (GraphEdge.root, name) ∈ roots (build schema) := by
    simpa [roots, build] using h
  exact (all _ need (find?_build_ne_none.mpr h)).resolve_right (by simp)

/-- An order makes a schema legal. -/
theorem isLegal_of_emissionOrder (nodup : (schema.structs.map (·.name)).Nodup)
    {order : List String} (ends : emissionOrder schema = .ok order) : schema.IsLegal := by
  obtain ⟨legal, complete⟩ := legal_of_emissionOrder ends
  have member : ∀ {owner parent}, schema.Inherits owner parent → owner ∈ order := by
    rintro _ parent ⟨s, hs, rfl, -⟩
    exact complete s.name (List.mem_map_of_mem hs)
  refine ⟨fun owner parent inherits => ?_, fun name circle => ?_⟩
  · exact names_build ▸ legal.defined
      (legal.inherits_mem (member inherits) ((inherits_build_iff nodup).mpr inherits))
  · obtain ⟨parent, inherits, -⟩ := Relation.TransGen.head'_iff.mp circle
    exact legal.acyclic (member inherits)
      (TransGen.mono (fun _ _ => (inherits_build_iff nodup).mpr) _ _ circle)

/-- A legal schema in which no struct needs its own heir has an order. -/
theorem exists_emissionOrder (nodup : (schema.structs.map (·.name)).Nodup)
    (legal : schema.IsLegal) (apart : ¬ schema.NeedsOwnHeir) :
    ∃ order, emissionOrder schema = .ok order := by
  refine (run_topologicalOrder (build schema)).accepts (fun owner parent inherits => ?_)
    (fun child parent inherits path => apart ⟨child, parent, ?_, ?_⟩) (.inl rfl)
  · exact find?_build_ne_none.mpr
      (legal.parents owner parent ((inherits_build_iff nodup).mp inherits))
  · exact (inherits_build_iff nodup).mp inherits
  · exact TransGen.mono (fun _ _ => needs_of_needs_build) _ _ path

/-- A struct that needs its own heir has no order when it is listed first. -/
theorem emissionOrder_ne_ok {first : ResolvedStruct} {rest : List ResolvedStruct}
    (listed : schema.structs = first :: rest)
    (nodup : (schema.structs.map (·.name)).Nodup) {child : String}
    (inherits : schema.Inherits child first.name) (path : TransGen schema.Needs first.name child)
    (order : List String) : emissionOrder schema ≠ .ok order := by
  intro ends
  have run := run_topologicalOrder (build schema)
  have first_root : roots (build schema) =
      (.root, first.name) :: rest.map fun s => (GraphEdge.root, s.name) := by
    simp [roots, build, listed]
  rw [show topologicalOrder (build schema) = .ok order from ends, first_root] at run
  exact run.heir_fails ((inherits_build_iff nodup).mpr inherits)
    (TransGen.mono (fun _ _ => (needs_build_iff nodup).mpr) _ _ path)

end SchemaSet

/-- Only legal schemas have an emission order. That every listing of the structs has one exactly
when the schema is legal holds just for those schemas that, if legal, have no struct that needs its
own heir. -/
theorem emissionOrder_accepts {groups : List DefinitionGroup} {schema : SchemaSet}
    (resolved : SchemaSet.resolve groups = .ok schema) :
    ((∃ order, emissionOrder schema = .ok order) → schema.IsLegal) ∧
    ((∀ structs : List ResolvedStruct, structs.Perm schema.structs →
        ((∃ order, emissionOrder { schema with structs } = .ok order) ↔ schema.IsLegal)) ↔
      (schema.IsLegal → ¬ schema.NeedsOwnHeir)) := by
  have nodup := SchemaSet.nodup_names_of_resolve resolved
  have nodupPerm : ∀ structs : List ResolvedStruct, structs.Perm schema.structs →
      (structs.map (·.name)).Nodup :=
    fun structs perm => (perm.map _).nodup_iff.mpr nodup
  refine ⟨fun ⟨order, ends⟩ => SchemaSet.isLegal_of_emissionOrder nodup ends, ?_, ?_⟩
  · rintro accepts legal ⟨child, parent, inherits, path⟩
    -- The listing that fails has the struct with the heir in front.
    obtain ⟨first, hfirst, rfl⟩ := List.mem_map.mp (legal.parents child parent inherits)
    obtain ⟨before, behind, split⟩ := List.append_of_mem hfirst
    have perm : (first :: (before ++ behind)).Perm schema.structs := by
      rw [split]
      exact List.perm_middle.symm
    obtain ⟨order, ends⟩ := (accepts _ perm).mpr legal
    rw [← SchemaSet.inherits_perm perm] at inherits
    rw [← SchemaSet.needs_perm perm] at path
    exact SchemaSet.emissionOrder_ne_ok rfl (nodupPerm _ perm) inherits path order ends
  · intro apart structs perm
    constructor
    · rintro ⟨order, ends⟩
      exact (SchemaSet.isLegal_perm perm).mp
        (SchemaSet.isLegal_of_emissionOrder (nodupPerm _ perm) ends)
    · intro legal
      exact SchemaSet.exists_emissionOrder (nodupPerm _ perm)
        ((SchemaSet.isLegal_perm perm).mpr legal)
        (mt (SchemaSet.needsOwnHeir_perm perm).mp (apart legal))

/-- Two structs that hold arrays of each other are put in an order, since neither is an heir of the
other. -/
theorem emissionOrder_accepts_mutualHolders :
    ∃ schema, SchemaSet.resolve mutualHolders = .ok schema ∧
      emissionOrder schema = .ok ["Base", "Part", "Whole"] ∧ schema.IsLegal := by
  obtain ⟨schema, resolved, ends⟩ : ∃ schema, SchemaSet.resolve mutualHolders = .ok schema ∧
      emissionOrder schema = .ok ["Base", "Part", "Whole"] := ⟨_, rfl, rfl⟩
  exact ⟨schema, resolved, ends, (emissionOrder_accepts resolved).1 ⟨_, ends⟩⟩

/-- A struct with an array of its own heir, listed before the heir. -/
def holderOfHeir : List DefinitionGroup :=
  [{ name := "heirs"
     definitions :=
      [.struct
        { name := "Holder", size := 12
          fields :=
            [{ name := some "heirs", memberName := some "heirs", typeName := reflexiveType
               struct := some "Heir" }] },
       .struct { name := "Heir", inherits := some "Holder", fields := [], size := 12 }] }]

/-- The schema is legal, yet only the listing with the heir first has an order. -/
theorem emissionOrder_fails_holderOfHeir :
    ∃ schema, SchemaSet.resolve holderOfHeir = .ok schema ∧ schema.IsLegal ∧
      emissionOrder schema = .error (.circularDependency ["Holder", "Heir", "Holder"]) ∧
      emissionOrder { schema with structs := schema.structs.reverse } =
        .ok ["Holder", "Heir"] := by
  obtain ⟨schema, resolved, fails, ends⟩ : ∃ schema, SchemaSet.resolve holderOfHeir = .ok schema ∧
      emissionOrder schema = .error (.circularDependency ["Holder", "Heir", "Holder"]) ∧
      emissionOrder { schema with structs := schema.structs.reverse } =
        .ok ["Holder", "Heir"] := ⟨_, rfl, rfl, rfl⟩
  have perm := List.reverse_perm schema.structs
  have nodup := (perm.map (·.name)).nodup_iff.mpr (SchemaSet.nodup_names_of_resolve resolved)
  exact ⟨schema, resolved,
    (SchemaSet.isLegal_perm perm).mp (SchemaSet.isLegal_of_emissionOrder nodup ends), fails, ends⟩

end TagSchema
