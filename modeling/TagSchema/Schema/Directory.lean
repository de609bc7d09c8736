import TagSchema.Files
import TagSchema.Schema.Analysis
import TagSchema.Schema.Source

/-!
# Schema directories

A schema is a directory of files, each with a group of definitions that is named after the file.
-/

namespace TagSchema.SchemaDirectory

/-- The notation of a schema file, by its extension. -/
def format? (file : String) : Option SourceNotation :=
  match Path.extension? file with
  | some "json" => some .json
  | some "yaml" | some "yml" => some .yaml
  | _ => none

/-- The schema files of a directory, sorted by name. -/
def files (tree : FileTree) (directory : String) : Except SchemaError (List String) :=
  match tree.filesIn (Path.components directory) with
  | .ok names => .ok ((names.filter fun name => (format? name).isSome).mergeSort)
  | .error fault => .error (.unreadable directory fault.message)

/-- The group of a file. -/
def load (tree : FileTree) (directory file : String) : Except SchemaError DefinitionGroup :=
  let path := Path.join directory file
  match tree.readText (Path.components path) with
  | .error fault => .error (.unreadable path fault.message)
  | .ok text =>
    match DefinitionGroup.read? ((format? file).getD .yaml) (Path.stem file) text with
    | some group => .ok group
    | none => .error (.unparsable path)

/-- The groups of a directory. -/
def loadAll (tree : FileTree) (directory : String) : Except SchemaError (List DefinitionGroup) := do
  (← files tree directory).mapM (load tree directory)

end TagSchema.SchemaDirectory
