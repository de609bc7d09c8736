import Mathlib.Data.List.Nodup
import Mathlib.Data.List.Perm.Subperm
import Mathlib.Logic.Relation
import TagSchema.Proofs.Schema.DefinedOnce
import TagSchema.Proofs.Tag.Insertion
import TagSchema.Schema.EmissionOrder

/-!
# The emission order is legal

An insertion visits what a struct needs before it places the struct. `Run` says how that goes
without a bound on the depth, so that a derivation is a visit that ends. The bound of the definition
is never met: the structs on the way are different ones (`run_insertAll`). What a run has placed can
be placed one by one, each struct after its parent and after those elements from which it cannot be
reached (`Run.legal`).
-/

namespace TagSchema

/-- What a struct needs, in the order of the visit: its parent, then its elements. -/
def GraphNode.needs (node : GraphNode) : List (GraphEdge × String) :=
  node.inherits.toList.map (GraphEdge.inherits, ·) ++ node.elements.map (GraphEdge.contains, ·)

namespace LayoutGraph

/-! ### Runs without a bound -/

/-- Visits some structs in turn: `Run nodes visiting placed todo result` if that ends in the given
result. A struct that is placed, not defined or, as an element, on the way already is passed by. -/
inductive Run (nodes : List GraphNode) :
    List String → List String → List (GraphEdge × String) → Except SchemaError (List String) → Prop
  | done (visiting placed : List String) : Run nodes visiting placed [] (.ok placed)
  | pass {visiting placed : List String} {edge : GraphEdge} {name : String}
      {rest : List (GraphEdge × String)} {result : Except SchemaError (List String)}
      (settled : name ∈ placed ∨ find? nodes name = none ∨ name ∈ visiting ∧ edge = .contains)
      (run : Run nodes visiting placed rest result) :
      Run nodes visiting placed ((edge, name) :: rest) result
  | cycle {visiting placed : List String} {edge : GraphEdge} {name : String}
      {rest : List (GraphEdge × String)} {node : GraphNode}
      (fresh : name ∉ placed) (found : find? nodes name = some node)
      (visited : name ∈ visiting) (required : edge ≠ .contains) :
      Run nodes visiting placed ((edge, name) :: rest)
        (.error (.circularDependency (visiting ++ [name])))
  | unknownParent {visiting placed : List String} {edge : GraphEdge} {name parent : String}
      {rest : List (GraphEdge × String)} {node : GraphNode}
      (fresh : name ∉ placed) (found : find? nodes name = some node) (unvisited : name ∉ visiting)
      (inherits : node.inherits = some parent) (unknown : find? nodes parent = none) :
      Run nodes visiting placed ((edge, name) :: rest) (.error (.unknownParent name parent))
  | fail {visiting placed : List String} {edge : GraphEdge} {name : String}
      {rest : List (GraphEdge × String)} {node : GraphNode} {failure : SchemaError}
      (fresh : name ∉ placed) (found : find? nodes name = some node) (unvisited : name ∉ visiting)
      (known : ∀ parent ∈ node.inherits, find? nodes parent ≠ none)
      (visit : Run nodes (visiting ++ [name]) placed node.needs (.error failure)) :
      Run nodes visiting placed ((edge, name) :: rest) (.error failure)
  | place {visiting placed placed' : List String} {edge : GraphEdge} {name : String}
      {rest : List (GraphEdge × String)} {node : GraphNode}
      {result : Except SchemaError (List String)}
      (fresh : name ∉ placed) (found : find? nodes name = some node) (unvisited : name ∉ visiting)
      (known : ∀ parent ∈ node.inherits, find? nodes parent ≠ none)
      (visit : Run nodes (visiting ++ [name]) placed node.needs (.ok placed'))
      (run : Run nodes visiting (ClassTable.insertNew placed' name) rest result) :
      Run nodes visiting placed ((edge, name) :: rest) result

variable {nodes : List GraphNode} {visiting placed order : List String} {name : String}
  {node : GraphNode} {todo : List (GraphEdge × String)}

/-- Every struct as a root. -/
def roots (nodes : List GraphNode) : List (GraphEdge × String) :=
  nodes.map fun node => (.root, node.name)

/-- Inserts some structs in turn. -/
def insertAll (nodes : List GraphNode) (depth : Nat) (visiting placed : List String)
    (todo : List (GraphEdge × String)) : Except SchemaError (List String) :=
  todo.foldlM (fun placed (edge, name) => insert nodes depth edge visiting placed name) placed

/-- The limit on depth is one more than the number of nodes. -/
theorem topologicalOrder_eq (nodes : List GraphNode) :
    topologicalOrder nodes = insertAll nodes (nodes.length + 1) [] [] (roots nodes) := by
  simp only [topologicalOrder, insertAll, roots, List.foldlM_map]

/-- A node that is found is one of that name. -/
theorem find?_eq_some (found : find? nodes name = some node) : node ∈ nodes ∧ node.name = name :=
  ⟨List.mem_of_find?_eq_some found, by simpa using List.find?_some found⟩

/-- Among distinct names a node is found by its own. -/
theorem find?_of_mem (nodup : (nodes.map (·.name)).Nodup) (h : node ∈ nodes) :
    find? nodes node.name = some node := by
  obtain ⟨found, hfound⟩ : ∃ found, find? nodes node.name = some found :=
    Option.isSome_iff_exists.mp (by simpa [find?] using ⟨node, h, rfl⟩)
  obtain ⟨mem, same⟩ := find?_eq_some hfound
  rw [hfound, List.inj_on_of_nodup_map nodup mem h same]

/-! ### One visit of the bounded insertion -/

section insert

variable (depth : Nat) (edge : GraphEdge)

/-- Nothing is to be done for what is placed already, for what is not defined, and for an element
that is on the way. -/
theorem insert_pass
    (h : name ∈ placed ∨ find? nodes name = none ∨ name ∈ visiting ∧ edge = .contains) :
    insert nodes (depth + 1) edge visiting placed name = .ok placed := by
  by_cases isPlaced : name ∈ placed
  · simp [insert, isPlaced]
  · obtain unknown | ⟨visited, rfl⟩ := h.resolve_left isPlaced
    · simp [insert, isPlaced, unknown]
    · cases found : find? nodes name with
      | none => simp [insert, isPlaced, found]
      | some node => simp [insert, isPlaced, found, visited]

variable {edge}

/-- What is on the way already, and must come first, makes a circle. -/
theorem insert_cycle (fresh : name ∉ placed) (found : find? nodes name = some node)
    (visited : name ∈ visiting) (required : edge ≠ .contains) :
    insert nodes (depth + 1) edge visiting placed name =
      .error (.circularDependency (visiting ++ [name])) := by
  simp [insert, fresh, found, visited, required]

variable (edge)

/-- A parent that is not defined is an error. -/
theorem insert_unknownParent {parent : String} (fresh : name ∉ placed)
    (found : find? nodes name = some node) (unvisited : name ∉ visiting)
    (inherits : node.inherits = some parent) (unknown : find? nodes parent = none) :
    insert nodes (depth + 1) edge visiting placed name = .error (.unknownParent name parent) := by
  simp only [insert, List.contains_iff_mem, fresh, found, unvisited, inherits, unknown]
  rfl

/-- A node that is met for the first time comes behind what it needs. -/
theorem insert_visit (fresh : name ∉ placed) (found : find? nodes name = some node)
    (unvisited : name ∉ visiting) (known : ∀ parent ∈ node.inherits, find? nodes parent ≠ none) :
    insert nodes (depth + 1) edge visiting placed name = do
      let placed ← insertAll nodes depth (visiting ++ [name]) placed node.needs
      return ClassTable.insertNew placed name := by
  simp only [insert, List.contains_iff_mem, fresh, found, unvisited, if_false]
  cases inherits : node.inherits with
  | none =>
    simp only [insertAll, GraphNode.needs, inherits, List.foldlM_map, Option.toList_none,
      List.map_nil, List.nil_append]
    rfl
  | some parent =>
    have : (find? nodes parent).isNone = false := by
      simpa [Option.isNone_eq_false_iff, Option.isSome_iff_ne_none] using known parent inherits
    simp [insertAll, GraphNode.needs, inherits, List.foldlM_map, this]

end insert

/-! ### The bound is never met -/

/-- Needs are met one after the other. -/
theorem insertAll_cons (depth : Nat) (need : GraphEdge × String) :
    insertAll nodes depth visiting placed (need :: todo) =
      insert nodes depth need.1 visiting placed need.2 >>= fun placed =>
        insertAll nodes depth visiting placed todo := rfl

/-- The way to a struct has no more stations than there are structs. -/
theorem length_visiting_le (distinct : visiting.Nodup)
    (defined : visiting ⊆ nodes.map (·.name)) : visiting.length ≤ nodes.length := by
  simpa using (distinct.subperm defined).length_le

/-- With room for every struct on the way, the bounded insertion is a run. -/
theorem run_insertAll {depth : Nat} (distinct : visiting.Nodup)
    (defined : visiting ⊆ nodes.map (·.name)) (room : nodes.length < depth + visiting.length) :
    Run nodes visiting placed todo (insertAll nodes depth visiting placed todo) := by
  -- Only a visit lowers the bound; within one visit the induction is on what is still to do.
  induction depth generalizing visiting placed todo with
  | zero =>
    have := length_visiting_le distinct defined
    omega
  | succ depth ih =>
    induction todo generalizing placed with
    | nil => exact .done visiting placed
    | cons need rest ihRest =>
      obtain ⟨edge, name⟩ := need
      rw [insertAll_cons]
      by_cases settled : name ∈ placed ∨ find? nodes name = none ∨
        name ∈ visiting ∧ edge = .contains
      · rw [insert_pass depth edge settled]
        exact .pass settled ihRest
      push Not at settled
      obtain ⟨fresh, isDefined, open_⟩ := settled
      obtain ⟨node, found⟩ := Option.ne_none_iff_exists'.mp isDefined
      by_cases visited : name ∈ visiting
      · rw [insert_cycle depth fresh found visited (open_ visited)]
        exact .cycle fresh found visited (open_ visited)
      by_cases known : ∀ parent ∈ node.inherits, find? nodes parent ≠ none
      · have longer : (visiting ++ [name]).Nodup :=
          List.nodup_append.mpr ⟨distinct, List.nodup_singleton name, by
            rintro a ha b hb rfl
            exact visited (List.mem_singleton.mp hb ▸ ha)⟩
        have stillDefined : visiting ++ [name] ⊆ nodes.map (·.name) := by
          obtain ⟨mem, rfl⟩ := find?_eq_some found
          exact List.append_subset.mpr ⟨defined, by simpa using ⟨node, mem, rfl⟩⟩
        have visit := @ih (visiting ++ [name]) placed node.needs longer stillDefined
          (by rw [List.length_append, List.length_singleton]; omega)
        rw [insert_visit depth edge fresh found visited known]
        cases inner : insertAll nodes depth (visiting ++ [name]) placed node.needs with
        | error failure => exact .fail fresh found visited known (inner ▸ visit)
        | ok placed' => exact .place fresh found visited known (inner ▸ visit) ihRest
      · push Not at known
        obtain ⟨parent, inherits, unknown⟩ := known
        rw [insert_unknownParent depth edge fresh found visited inherits unknown]
        exact .unknownParent fresh found visited inherits unknown

/-- The order of a graph comes from a run over every struct. -/
theorem run_topologicalOrder (nodes : List GraphNode) :
    Run nodes [] [] (roots nodes) (topologicalOrder nodes) := by
  rw [topologicalOrder_eq]
  exact run_insertAll List.nodup_nil (List.nil_subset _) (by simp)

/-! ### Legal orders -/

/-- One struct needs another, as its parent or as an element. -/
def Needs (nodes : List GraphNode) (owner needed : String) : Prop :=
  ∃ node, find? nodes owner = some node ∧ ∃ edge, (edge, needed) ∈ node.needs

/-- What has to come before a struct: its parent, and every element that does not need the struct
in turn. -/
structure Placeable (nodes : List GraphNode) (earlier : List String) (node : GraphNode) : Prop where
  fresh : node.name ∉ earlier
  parent : ∀ parent ∈ node.inherits, parent ∈ earlier
  elements : ∀ element ∈ node.elements, find? nodes element ≠ none → element ≠ node.name →
    element ∈ earlier ∨ Relation.TransGen (Needs nodes) element node.name

/-- Orders in which each struct can be placed when its turn comes. -/
inductive Legal (nodes : List GraphNode) : List String → Prop
  | nil : Legal nodes []
  | snoc {order : List String} {name : String} {node : GraphNode} (legal : Legal nodes order)
      (found : find? nodes name = some node) (placeable : Placeable nodes order node) :
      Legal nodes (order ++ [name])

/-- Placing a struct that can be placed keeps an order legal, also when it is there already. -/
theorem Legal.insertNew (legal : Legal nodes order) (found : find? nodes name = some node)
    (placeable : name ∉ order → Placeable nodes order node) :
    Legal nodes (ClassTable.insertNew order name) := by
  unfold ClassTable.insertNew
  split
  · exact legal
  · exact legal.snoc found (placeable ‹_›)

/-- A run keeps what is placed, and places all that it has to do and is defined, except for elements
that are on the way themselves. -/
theorem Run.settles {result : Except SchemaError (List String)}
    (run : Run nodes visiting placed todo result) (ends : result = .ok order) :
    placed ⊆ order ∧ ∀ need ∈ todo, find? nodes need.2 ≠ none →
      need.2 ∈ order ∨ need.2 ∈ visiting ∧ need.1 = .contains := by
  induction run generalizing order with
  | done visiting placed =>
    cases ends
    exact ⟨List.Subset.refl _, by simp⟩
  | @pass visiting placed edge name rest result settled run ih =>
    obtain ⟨grows, all⟩ := ih ends
    refine ⟨grows, List.forall_mem_cons.mpr ⟨fun defined => ?_, all⟩⟩
    -- What is passed over was there before, is not defined, or is on the way and waits for nothing.
    obtain isPlaced | unknown | skipped := settled
    · exact .inl (grows isPlaced)
    · exact absurd unknown defined
    · exact .inr skipped
  | cycle => cases ends
  | unknownParent => cases ends
  | fail => cases ends
  | place fresh found unvisited known visit run ihVisit ihRun =>
    obtain ⟨grows', -⟩ := ihVisit rfl
    obtain ⟨grows, all⟩ := ihRun ends
    exact ⟨fun a ha => grows (ClassTable.mem_insertNew.mpr (.inl (grows' ha))),
      List.forall_mem_cons.mpr
        ⟨fun _ => .inl (grows (ClassTable.mem_insertNew.mpr (.inr rfl))), all⟩⟩

/-- What a run gives that starts from a legal order, when each struct on the way needs all that is
still to do: the order stays legal and grows, and all that is defined has been placed, except for
elements that are on the way themselves. -/
theorem Run.legal {result : Except SchemaError (List String)}
    (run : Run nodes visiting placed todo result) (ends : result = .ok order)
    (start : Legal nodes placed)
    (way : ∀ v ∈ visiting, ∀ need ∈ todo, Relation.TransGen (Needs nodes) v need.2) :
    Legal nodes order ∧ placed ⊆ order ∧ ∀ need ∈ todo, find? nodes need.2 ≠ none →
      need.2 ∈ order ∨ need.2 ∈ visiting ∧ need.1 = .contains := by
  refine ⟨?_, run.settles ends⟩
  induction run generalizing order with
  | done visiting placed =>
    cases ends
    exact start
  | pass settled run ih =>
    exact ih ends start fun v hv need hneed => way v hv need (List.mem_cons_of_mem _ hneed)
  | cycle => cases ends
  | unknownParent => cases ends
  | fail => cases ends
  | @place visiting placed placed' edge name rest node result fresh found unvisited known visit run
      ihVisit ihRun =>
    -- Whatever is on the way needs the struct, and through it all that the visit has to do.
    have reach : ∀ v ∈ visiting, Relation.TransGen (Needs nodes) v name :=
      fun v hv => way v hv (edge, name) List.mem_cons_self
    have inward : ∀ v ∈ visiting ++ [name], ∀ need ∈ node.needs,
        Relation.TransGen (Needs nodes) v need.2 := by
      intro v hv need hneed
      have step : Needs nodes name need.2 := ⟨node, found, need.1, hneed⟩
      obtain before | same := List.mem_append.mp hv
      · exact (reach v before).tail step
      · exact List.mem_singleton.mp same ▸ .single step
    have legal' : Legal nodes placed' := ihVisit rfl start inward
    obtain ⟨-, all'⟩ := visit.settles rfl
    obtain ⟨-, rfl⟩ := find?_eq_some found
    have placeable : node.name ∉ placed' → Placeable nodes placed' node := by
      refine fun absent => ⟨absent, fun parent hparent => ?_,
      fun element helement defined other => ?_⟩
      · have need : (GraphEdge.inherits, parent) ∈ node.needs :=
          List.mem_append_left _ (by simpa using hparent)
        exact (all' _ need (known parent hparent)).resolve_right (by simp)
      · have need : (GraphEdge.contains, element) ∈ node.needs :=
          List.mem_append_right _ (by simpa using helement)
        -- An element that was skipped is on the way itself, so it needs the struct.
        refine (all' _ need defined).imp_right fun ⟨onWay, _⟩ => ?_
        obtain before | same := List.mem_append.mp onWay
        · exact reach element before
        · exact absurd (List.mem_singleton.mp same) other
    exact ihRun ends (legal'.insertNew found placeable)
      fun v hv need hneed => way v hv need (List.mem_cons_of_mem _ hneed)

/-- In a legal order nothing comes twice. -/
theorem Legal.nodup (legal : Legal nodes order) : order.Nodup := by
  induction legal with
  | nil => exact List.nodup_nil
  | snoc legal found placeable ih =>
    obtain ⟨-, rfl⟩ := find?_eq_some found
    exact List.nodup_append.mpr ⟨ih, List.nodup_singleton _, by
      rintro a ha b hb rfl
      exact placeable.fresh (List.mem_singleton.mp hb ▸ ha)⟩

/-- In a legal order there is nothing that is not defined. -/
theorem Legal.defined (legal : Legal nodes order) (h : name ∈ order) :
    name ∈ nodes.map (·.name) := by
  induction legal with
  | nil => cases h
  | snoc legal found placeable ih =>
    obtain before | same := List.mem_append.mp h
    · exact ih before
    · obtain ⟨mem, named⟩ := find?_eq_some found
      exact List.mem_map.mpr ⟨_, mem, named.trans (List.mem_singleton.mp same).symm⟩

/-- In a legal order, each struct could be placed after those before it. -/
theorem Legal.placeable (legal : Legal nodes order) (found : find? nodes name = some node)
    (h : name ∈ order) : ∃ earlier, earlier ++ [name] <+: order ∧ Placeable nodes earlier node := by
  induction legal with
  | nil => cases h
  | @snoc order last lastNode legal foundLast placeable ih =>
    by_cases before : name ∈ order
    · obtain ⟨earlier, isPrefix, possible⟩ := ih before
      exact ⟨earlier, isPrefix.trans (List.prefix_append _ _), possible⟩
    · obtain rfl := List.mem_singleton.mp ((List.mem_append.mp h).resolve_left before)
      cases found.symm.trans foundLast
      exact ⟨order, List.prefix_refl _, placeable⟩

/-- What comes before a struct comes before it in the whole order. -/
theorem sublist_of_mem_earlier {earlier : List String} {first : String}
    (h : earlier ++ [name] <+: order) (mem : first ∈ earlier) : [first, name].Sublist order :=
  ((List.singleton_sublist.mpr mem).append (List.Sublist.refl [name])).trans h.sublist

/-! ### The graph of a schema -/

variable {schema : SchemaSet}

/-- The node of a struct. -/
def nodeOf (s : ResolvedStruct) : GraphNode :=
  { name := s.name, inherits := s.inherits
    elements := (s.fields.filterMap ResolvedField.element?).foldl ClassTable.insertNew [] }

/-- The elements of a node are the structs in the arrays of its fields. -/
theorem mem_elements_nodeOf {s : ResolvedStruct} {element : String} :
    element ∈ (nodeOf s).elements ↔ ∃ field ∈ s.fields, field.element? = some element := by
  simp [nodeOf, ClassTable.mem_foldl_insertNew]

theorem names_build : (build schema).map (·.name) = schema.structs.map (·.name) :=
  List.map_map

/-- Nodes are found as the structs that they are made of. -/
theorem find?_build (schema : SchemaSet) (name : String) :
    find? (build schema) name = (schema.struct? name).map nodeOf :=
  List.find?_map ..

theorem find?_build_of_mem (nodup : (schema.structs.map (·.name)).Nodup) {s : ResolvedStruct}
    (h : s ∈ schema.structs) : find? (build schema) s.name = some (nodeOf s) :=
  find?_of_mem (names_build ▸ nodup) (List.mem_map_of_mem h)

end LayoutGraph

/-- One struct of a schema needs another: it inherits from it, or holds it in an array. -/
def SchemaSet.Needs (schema : SchemaSet) (owner needed : String) : Prop :=
  ∃ s ∈ schema.structs, s.name = owner ∧
    (s.inherits = some needed ∨ ∃ field ∈ s.fields, field.element? = some needed)

open LayoutGraph in
/-- What a node needs is what its struct needs. -/
theorem SchemaSet.needs_of_needs_build {schema : SchemaSet} {owner needed : String}
    (h : LayoutGraph.Needs (build schema) owner needed) : schema.Needs owner needed := by
  obtain ⟨node, found, edge, need⟩ := h
  rw [find?_build] at found
  obtain ⟨s, hs, rfl⟩ := Option.map_eq_some_iff.mp found
  refine ⟨s, List.mem_of_find?_eq_some hs, by simpa using List.find?_some hs, ?_⟩
  obtain parent | element := List.mem_append.mp need
  · obtain ⟨parent, hparent, same⟩ := List.mem_map.mp parent
    cases same
    exact .inl (Option.mem_toList.mp hparent)
  · obtain ⟨element, helement, same⟩ := List.mem_map.mp element
    cases same
    exact .inr (mem_elements_nodeOf.mp helement)

open LayoutGraph in
/-- Finding the emission order of a resolved schema ends. If it gives an order, the order has every
struct once and nothing else, each struct after its parent, and after each defined element of its
arrays from which it cannot be reached. -/
theorem emissionOrder_legal {groups : List DefinitionGroup} {schema : SchemaSet}
    (resolved : SchemaSet.resolve groups = .ok schema) :
    Run (build schema) [] [] (roots (build schema)) (emissionOrder schema) ∧
    ∀ order, emissionOrder schema = .ok order →
      order.Nodup ∧ order.Perm (schema.structs.map (·.name)) ∧
      (∀ s ∈ schema.structs, ∀ parent, s.inherits = some parent →
        [parent, s.name].Sublist order) ∧
      ∀ s ∈ schema.structs, ∀ field ∈ s.fields, ∀ element, field.element? = some element →
        (schema.struct? element).isSome → element ≠ s.name →
        [element, s.name].Sublist order ∨ Relation.TransGen schema.Needs element s.name := by
  have run := run_topologicalOrder (build schema)
  refine ⟨run, fun order ends => ?_⟩
  have nodup := SchemaSet.nodup_names_of_resolve resolved
  obtain ⟨legal, -, all⟩ := run.legal ends .nil (by simp)
  -- Every struct is a root of the search, and nothing is on the way when it begins.
  have complete : ∀ s ∈ schema.structs, s.name ∈ order := by
    intro s hs
    have need : (GraphEdge.root, s.name) ∈ roots (build schema) := by
      simpa [roots, build] using ⟨s, hs, rfl⟩
    have defined : find? (build schema) s.name ≠ none := by
      rw [find?_build_of_mem nodup hs]
      exact Option.some_ne_none _
    exact (all _ need defined).resolve_right (by simp)
  refine ⟨legal.nodup, ?_, fun s hs parent inherits => ?_,
    fun s hs field hfield element isElement defined other => ?_⟩
  · refine (List.perm_ext_iff_of_nodup legal.nodup nodup).mpr fun name => ⟨fun h => ?_, fun h => ?_⟩
    · exact names_build ▸ legal.defined h
    · obtain ⟨s, hs, rfl⟩ := List.mem_map.mp h
      exact complete s hs
  · obtain ⟨earlier, isPrefix, possible⟩ :=
      legal.placeable (find?_build_of_mem nodup hs) (complete s hs)
    exact sublist_of_mem_earlier isPrefix (possible.parent parent inherits)
  · obtain ⟨earlier, isPrefix, possible⟩ :=
      legal.placeable (find?_build_of_mem nodup hs) (complete s hs)
    have isDefined : find? (build schema) element ≠ none := by
      rw [find?_build]
      simpa [Option.isSome_iff_ne_none] using defined
    obtain before | reach := possible.elements element
      (mem_elements_nodeOf.mpr ⟨field, hfield, isElement⟩) isDefined other
    · exact .inl (sublist_of_mem_earlier isPrefix before)
    · exact .inr (Relation.TransGen.mono (fun _ _ => SchemaSet.needs_of_needs_build) _ _ reach)

/-- Two structs that hold arrays of each other, one of them with a parent that comes last. -/
def mutualHolders : List DefinitionGroup :=
  let array (member element : String) : FieldRecord :=
    { name := some member, memberName := some member, typeName := reflexiveType
      struct := some element }
  [{ name := "holders"
     definitions :=
      [.struct { name := "Whole", inherits := some "Base", fields := [array "parts" "Part"]
                 size := 16 },
       .struct { name := "Part", fields := [array "wholes" "Whole"], size := 12 },
       .struct { name := "Base", fields := [], size := 4 }] }]

/-- Two structs that hold arrays of each other: the one that is reached first comes last, behind its
parent and its elements. -/
theorem emissionOrder_legal_mutualHolders :
    ∃ schema, SchemaSet.resolve mutualHolders = .ok schema ∧
      emissionOrder schema = .ok ["Base", "Part", "Whole"] ∧
      ["Base", "Whole"].Sublist ["Base", "Part", "Whole"] ∧
      Relation.TransGen schema.Needs "Whole" "Part" := by
  obtain ⟨schema, resolved, ends, whole, part⟩ : ∃ schema,
      SchemaSet.resolve mutualHolders = .ok schema ∧
      emissionOrder schema = .ok ["Base", "Part", "Whole"] ∧
      (∃ s ∈ schema.structs, s.name = "Whole" ∧ s.inherits = some "Base") ∧
      ∃ s ∈ schema.structs, s.name = "Part" ∧ ∃ field ∈ s.fields,
        field.element? = some "Whole" ∧ (schema.struct? "Whole").isSome :=
    ⟨_, rfl, rfl, ⟨_, .head _, rfl, rfl⟩, _, .tail _ (.head _), rfl, _, .head _, rfl, rfl⟩
  obtain ⟨-, legal⟩ := emissionOrder_legal resolved
  obtain ⟨-, -, parents, elements⟩ := legal _ ends
  obtain ⟨s, hs, isWhole, inherits⟩ := whole
  obtain ⟨t, ht, isPart, field, hfield, element, defined⟩ := part
  refine ⟨schema, resolved, ends, isWhole ▸ parents s hs "Base" inherits, ?_⟩
  -- The part comes first, which is legal only because the whole needs it.
  have held := elements t ht field hfield "Whole" element defined (by rw [isPart]; decide)
  rw [isPart] at held
  exact held.resolve_left (by decide)

end TagSchema
