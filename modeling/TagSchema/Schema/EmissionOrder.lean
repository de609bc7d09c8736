import TagSchema.Schema.Resolve

/-!
# Emission order

Structs are emitted after their parents and, as far as possible, after the structs that they hold in
arrays. The order is found depth first. A struct that is being visited may be met again as an
element, since arrays are stored behind handles, but not as a parent.
-/

namespace TagSchema

/-- A struct in the graph of inheritance and containment. -/
structure GraphNode where
  name : String
  inherits : Option String
  /-- The elements of its own arrays, each once, in field order. -/
  elements : List String

/-- An array whose element is not defined. -/
structure UnresolvedReference where
  owner : String
  field : String
  struct : String
  deriving DecidableEq

/-- How a struct is met during a visit. -/
inductive GraphEdge where
  | root
  | inherits
  | contains
  deriving DecidableEq

/-- The elements that may be missing from a run. -/
def unorderedLeaves : List String := ["PredictedResource"]

/-- The element named by a field, if it is an array. -/
def ResolvedField.element? (field : ResolvedField) : Option String :=
  if field.record.typeName = reflexiveType then field.record.struct else none

namespace LayoutGraph

/-- The graph of a schema. -/
def build (schema : SchemaSet) : List GraphNode :=
  schema.structs.map fun s =>
    { name := s.name, inherits := s.inherits
      elements := (s.fields.filterMap ResolvedField.element?).foldl ClassTable.insertNew [] }

/-- The node of a name. -/
def find? (nodes : List GraphNode) (name : String) : Option GraphNode := nodes.find? (·.name = name)

/-- Places a struct after everything it needs. `visiting` are the structs on the way to it, `placed`
those placed already. The depth is at most the number of structs, because no struct is entered twice
on one way. -/
def insert (nodes : List GraphNode) : Nat → GraphEdge → List String → List String → String →
    Except SchemaError (List String)
  | 0, _, visiting, _, _ => .error (.circularDependency visiting)
  | depth + 1, edge, visiting, placed, name =>
    if placed.contains name then .ok placed
    else
      match find? nodes name with
      | none => .ok placed
      | some node =>
        if visiting.contains name then
          if edge = .contains then .ok placed
          else .error (.circularDependency (visiting ++ [name]))
        else do
          let visiting := visiting ++ [name]
          let placed ←
            match node.inherits with
            | none => .ok placed
            | some parent =>
              if (find? nodes parent).isNone then .error (.unknownParent name parent)
              else insert nodes depth .inherits visiting placed parent
          let placed ← node.elements.foldlM (insert nodes depth .contains visiting) placed
          return ClassTable.insertNew placed name

/-- Every struct, each after what it needs. -/
def topologicalOrder (nodes : List GraphNode) : Except SchemaError (List String) :=
  (nodes.map (·.name)).foldlM (insert nodes (nodes.length + 1) .root []) []

/-- The arrays whose element is not defined and may not be missing. -/
def unresolvedReferences (schema : SchemaSet) : List UnresolvedReference :=
  schema.structs.flatMap fun s => s.fields.filterMap fun field =>
    match field.element? with
    | none => none
    | some element =>
      if (schema.struct? element).isSome || unorderedLeaves.contains element then none
      else some ⟨s.name, field.identifier, element⟩

end LayoutGraph

/-- The warning about an unresolved reference. -/
def UnresolvedReference.warning (reference : UnresolvedReference) : String :=
  s!"{reference.owner}::{reference.field} references {reference.struct} " ++
    "which is not defined in this run"

/-- The order in which the structs of a schema are emitted. -/
def emissionOrder (schema : SchemaSet) : Except SchemaError (List String) :=
  LayoutGraph.topologicalOrder (LayoutGraph.build schema)

end TagSchema
