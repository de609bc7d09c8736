import TagSchema.Schema.Resolve

/-!
# Inheritance

The ancestors and the descendants of a struct. Inheritance may be cyclic or lead to a name that is
not defined; a walk takes at most one step more than there are structs.
-/

namespace TagSchema.SchemaSet

/-- The children of a struct, in load order. -/
def childrenOf (schema : SchemaSet) (name : String) : List String :=
  (schema.structs.filter (·.inherits = some name)).map (·.name)

/-- Goes through the list from a position on and appends the children of each struct that are not in
it yet. -/
def growDescendants (schema : SchemaSet) : Nat → Nat → List String → List String
  | 0, _, found => found
  | fuel + 1, position, found =>
    match found[position]? with
    | none => found
    | some name =>
      growDescendants schema fuel (position + 1)
        ((schema.childrenOf name).foldl ClassTable.insertNew found)

/-- A name followed by every struct that inherits from it, directly or not. -/
def descendantsOf (schema : SchemaSet) (name : String) : List String :=
  growDescendants schema (schema.structs.length + 2) 0 [name]

/-- Follows inheritance from a struct; `chain` holds the structs passed, the last first. -/
def climb (schema : SchemaSet) : Nat → List ResolvedStruct → ResolvedStruct →
    Except SchemaError (List ResolvedStruct)
  | 0, chain, _ => .error (.circularDependency (chain.reverse.map (·.name)))
  | fuel + 1, chain, s =>
    if chain.any (·.name = s.name) then
      .error (.circularDependency (chain.reverse.map (·.name)))
    else
      match s.inherits with
      | none => .ok (s :: chain)
      | some parent =>
        match schema.struct? parent with
        | none => .error (.unknownParent s.name parent)
        | some next => climb schema fuel (s :: chain) next

/-- The chain of inheritance that ends in a struct, the root first; empty if the struct is not
defined. -/
def lineage (schema : SchemaSet) (name : String) : Except SchemaError (List ResolvedStruct) :=
  match schema.struct? name with
  | none => .ok []
  | some s => climb schema (schema.structs.length + 1) [] s

end TagSchema.SchemaSet
