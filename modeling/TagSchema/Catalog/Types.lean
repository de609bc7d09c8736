import TagSchema.Catalog.Definitions
import TagSchema.Schema.Analysis
import TagSchema.Struct.Type

/-!
# The types of the catalog

The schema that the definitions of the catalog amount to, and the types of its structs.
-/

namespace TagSchema

namespace Catalog

/-- The classified schema; it is empty if the definitions do not amount to one. -/
def schema : ClassifiedSchema :=
  match analyze groups with
  | .ok analysis => analysis.schema
  | .error _ => { enums := [], bitfields := [], structs := [] }

/-- The types of the structs, in emission order. -/
def types : List StructType := schema.structs.filterMap fun s => schema.type? s.name

/-- The type of a struct by its name. -/
def type? (name : String) : Option StructType := types.find? (·.name = name)

end Catalog

end TagSchema
