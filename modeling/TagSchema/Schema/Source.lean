import TagSchema.Json.Reader
import TagSchema.Schema.Record
import TagSchema.Yaml.Reader

/-!
# Definitions as text

A group of definitions is written in JSON or in YAML.
-/

namespace TagSchema

/-- The notation of a schema text. -/
inductive SourceNotation where
  | json
  | yaml
  deriving DecidableEq

/-- The group of the given name that a text defines. -/
def DefinitionGroup.read? (source : SourceNotation) (name text : String) :
    Option DefinitionGroup := do
  let document ←
    match source with
    | .json => Json.read? Json.defaultDepth text
    | .yaml => Yaml.read? Yaml.defaultDepth text
  DefinitionGroup.ofNode? name document

end TagSchema
