import TagSchema.Catalog.Types
import TagSchema.Containment

/-!
# Indices and the arrays they point into

An index is a member somewhere in a value that points into an array of the root. Which indices do is
a table of the catalog, in which an index is found by the names of the arrays on the way to it. An
index is bad if it passes the end of its array; the null index never is.
-/

namespace TagSchema

/-- Where a member is: the elements of arrays on the way to it, and its identifier. -/
structure Place where
  elements : List (String × Nat)
  member : String
  deriving DecidableEq

/-- An index and the array of the root that it points into. -/
structure IndexRoute where
  /-- The arrays on the way to the index. -/
  arrays : List String
  member : String
  target : String
  deriving DecidableEq

/-- The indices below a root of the given name. -/
def Catalog.indexRoutes : String → List IndexRoute
  | "Weapon" => [⟨["triggers"], "magazine", "magazines"⟩]
  | "Model" | "Gbxmodel" =>
    [⟨["nodes"], "parent_node_index", "nodes"⟩, ⟨["nodes"], "first_child_node_index", "nodes"⟩,
      ⟨["regions", "permutations"], "node", "nodes"⟩]
  | _ => []

/-- Whether an index at a place is the one of the route, and passes the array that it points into
when arrays have the given lengths. -/
def IndexRoute.isPassed (route : IndexRoute) (lengths : List (String × Nat)) (place : Place)
    (index : Primitive.u16.Word) : Bool :=
  decide (route.arrays = place.elements.map Prod.fst ∧ route.member = place.member ∧
    index.toNat ≠ nullIndex.toNat) &&
  (lengths.find? (·.1 = route.target)).any (·.2 ≤ index.toNat)

/-! ### Indices of a value -/

/-- The index of a member, if it is one. -/
def LeafType.index? : (type : LeafType) → type.Value → Option Primitive.u16.Word
  | .plain (.index _), value => some value
  | _, _ => none

/-- Changes a member if it is an index. -/
def LeafType.mapIndex (f : Primitive.u16.Word → Primitive.u16.Word) :
    (type : LeafType) → type.Value → type.Value
  | .plain (.index _), value => f value
  | _, value => value

namespace Members

/-- The indices of a value, at every depth, with their places. The value itself is below the given
elements. -/
def indices (above : List (String × Nat)) : (members : Members) → members.Value →
    List (Place × Primitive.u16.Word)
  | .nil, _ => []
  | .leaf traits type rest, value =>
    (type.index? value.1).toList.map (⟨above, traits.identifier⟩, ·) ++ rest.indices above value.2
  | .array traits _ _ _ element rest, value =>
    (value.1.zipIdx.flatMap fun (item, i) =>
      element.indices (above ++ [(traits.identifier, i)]) item) ++ rest.indices above value.2

/-- Changes the indices of a value, at every depth, and nothing else. -/
def mapIndices (f : Place → Primitive.u16.Word → Primitive.u16.Word)
    (above : List (String × Nat)) : (members : Members) → members.Value → members.Value
  | .nil, _ => ()
  | .leaf traits type rest, value =>
    (type.mapIndex (f ⟨above, traits.identifier⟩) value.1, rest.mapIndices f above value.2)
  | .array traits _ _ _ element rest, value =>
    (value.1.zipIdx.map fun (item, i) =>
      element.mapIndices f (above ++ [(traits.identifier, i)]) item,
      rest.mapIndices f above value.2)

end Members

/-- Items changed by their positions keep their positions. -/
theorem zipIdx_map_zipIdx {α β : Type} (f : α × Nat → β) (items : List α) (start : Nat) :
    ((items.zipIdx start).map f).zipIdx start =
      (items.zipIdx start).map fun entry => (f entry, entry.2) := by
  induction items generalizing start with
  | nil => rfl
  | cons item rest ih => rw [List.zipIdx_cons, List.map_cons, List.zipIdx_cons, ih, List.map_cons]

/-- The changed value has the changed indices, at the same places. -/
theorem Members.indices_mapIndices (f : Place → Primitive.u16.Word → Primitive.u16.Word)
    (above : List (String × Nat)) (members : Members) (value : members.Value) :
    members.indices above (members.mapIndices f above value) =
      (members.indices above value).map fun entry => (entry.1, f entry.1 entry.2) := by
  induction members generalizing above with
  | nil => rfl
  | leaf traits type rest ih =>
    -- A member has one index at most, and it is the one that is changed.
    have own : type.index? (type.mapIndex (f ⟨above, traits.identifier⟩) value.1) =
        (type.index? value.1).map (f ⟨above, traits.identifier⟩) := by
      cases type with
      | plain type => cases type <;> rfl
      | dependency | blob => rfl
    rw [indices, indices, List.map_append, ← ih above value.2]
    refine congrArg (· ++ _) ?_
    change ((type.index? (type.mapIndex _ value.1)).toList.map _ : List _) = _
    rw [own]
    cases type.index? value.1 <;> rfl
  | array traits limits name title element rest ihElement ih =>
    rw [indices, indices, List.map_append, ← ih above value.2]
    refine congrArg (· ++ _) ?_
    change ((value.1.zipIdx.map _).zipIdx.flatMap _ : List _) = _
    rw [zipIdx_map_zipIdx, List.flatMap_map, List.map_flatMap]
    exact congrArg (List.flatMap · _) (funext fun entry => ihElement _ entry.1)

namespace StructType

/-- Whether an index is bad in a value. -/
def isBad (type : StructType) (value : type.Value) (place : Place) (index : Primitive.u16.Word) :
    Bool :=
  (Catalog.indexRoutes type.name).any (·.isPassed (type.members.lengths value) place index)

/-- The bad indices of a value. -/
def badIndices (type : StructType) (value : type.Value) : List (Place × Primitive.u16.Word) :=
  (type.members.indices [] value).filter fun (place, index) => type.isBad value place index

/-- The value with its bad indices set to the null index. -/
def nullBadIndices (type : StructType) (value : type.Value) : type.Value :=
  type.members.mapIndices (fun place index =>
    if type.isBad value place index then nullIndex.toBitVec else index) [] value

end StructType

/-! ### The routes of a type -/

/-- The arrays of the root that a member points into, if it is an index. -/
def LeafType.rootTargets (root : String) : LeafType → List String
  | .plain (.index (some target)) => if root ∈ target.tags then [target.member] else []
  | _ => []

/-- No member is an index into a struct of the given names. -/
def LeafType.avoids (names : List String) : LeafType → Bool
  | .plain (.index (some target)) => names.all (· ∉ target.tags)
  | _ => true

/-- The routes are those of the indices of the members, which are inside structs of the given names
and reached through the given arrays. No index points into one of these structs. -/
def Members.isRouted (routes : List IndexRoute) (root : String) (inside arrays : List String) :
    Members → Bool
  | .nil => true
  | .leaf traits type rest =>
    type.avoids inside &&
      decide ((routes.filter fun route =>
        decide (route.arrays = arrays ∧ route.member = traits.identifier)).map (·.target) =
          type.rootTargets root) &&
      rest.isRouted routes root inside arrays
  | .array traits _ name _ element rest =>
    element.isRouted routes root (name :: inside) (arrays ++ [traits.identifier]) &&
      rest.isRouted routes root inside arrays

theorem Catalog.isRouted_of_mem {type : StructType} (h : type ∈ types) :
    type.members.isRouted (indexRoutes type.name) type.name [] [] = true := by
  have all : ∀ type ∈ types,
      type.members.isRouted (indexRoutes type.name) type.name [] [] = true := by
    decide +kernel
  exact all type h

end TagSchema
