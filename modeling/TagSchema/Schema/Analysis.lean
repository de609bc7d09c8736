import TagSchema.Schema.Classify

/-!
# Analysis

Everything that is found out about a schema before anything is emitted.
-/

namespace TagSchema

/-- The outcome of resolving, ordering and classifying a schema. -/
structure Analysis where
  set : SchemaSet
  order : List String
  unresolved : List UnresolvedReference
  schema : ClassifiedSchema

/-- Analyzes the definitions of some groups. -/
def analyze (groups : List DefinitionGroup) : Except SchemaError Analysis := do
  let set ← SchemaSet.resolve groups
  let order ← emissionOrder set
  let schema ← classify set order
  return { set, order, unresolved := LayoutGraph.unresolvedReferences set, schema }

/-- The warnings of an analysis: about arrays whose element is not defined, then about sizes. -/
def Analysis.warnings (analysis : Analysis) : List String :=
  analysis.unresolved.map (·.warning) ++ analysis.schema.structs.filterMap (·.sizeWarning?)

end TagSchema
