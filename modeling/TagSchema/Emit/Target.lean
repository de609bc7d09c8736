import TagSchema.Emit.Definitions
import TagSchema.Emit.FileCodec
import TagSchema.Emit.PackedCodec
import TagSchema.Emit.Reflection
import TagSchema.Emit.Validators

/-!
# Targets

The files that are emitted for a schema, and the module that holds them together.
-/

namespace TagSchema.Emit

/-- One emitted file. -/
inductive Target where
  | definitions
  | packedCodec
  | fileCodec
  | validators
  | reflection
  deriving DecidableEq

namespace Target

/-- Every target, in the order of emission. -/
def all : List Target := [.definitions, .packedCodec, .fileCodec, .validators, .reflection]

/-- The module of a target. -/
def moduleName : Target → String
  | .definitions => "definitions"
  | .packedCodec => "packed_codec"
  | .fileCodec => "file_codec"
  | .validators => "validators"
  | .reflection => "reflection"

/-- The target of a module. -/
def ofModuleName? (name : String) : Option Target := all.find? (·.moduleName = name)

/-- The file of a target. -/
def fileName (target : Target) : String := target.moduleName ++ ".rs"

/-- What is written for a target. -/
def steps (target : Target) (schema : ClassifiedSchema) (options : Options) : List Step :=
  match target with
  | .definitions => Definitions.steps schema options
  | .packedCodec => PackedCodec.steps schema options
  | .fileCodec => FileCodec.steps schema options
  | .validators => Validators.steps schema options
  | .reflection => Reflection.steps schema options

/-- The text of a target. -/
def emit (target : Target) (schema : ClassifiedSchema) (options : Options) : String :=
  render (target.steps schema options)

end Target

/-- The file that includes the others. -/
def includeFile : String := "include.rs"

/-- The attribute of every included module. -/
def includeAttribute : String :=
  "#[allow(unused_mut, unused_variables, unused_imports, dead_code, clippy::all, " ++
    "non_upper_case_globals)]"

/-- The modules of the targets, of which only the definitions are public. -/
def includeSteps : List Step :=
  [.line notice, .blank] ++
  Target.all.flatMap (fun target =>
    let visibility := if target = .definitions then "pub " else ""
    .line includeAttribute ::
    braces s!"{visibility}mod {target.moduleName}"
      [.line ("include!(concat!(env!(" ++ stringLiteral "OUT_DIR" ++ "), " ++
        stringLiteral ("/" ++ target.fileName) ++ "));")] "" ++
    [.blank]) ++
  [.line "pub use definitions::*;"]

/-- The text of that file. -/
def includeSource : String := render includeSteps

/-- Every file for a schema, by name. -/
def files (schema : ClassifiedSchema) (options : Options) : List (String × String) :=
  Target.all.map (fun target => (target.fileName, target.emit schema options)) ++
    [(includeFile, includeSource)]

end TagSchema.Emit
