import TagSchema.Command.Arguments
import TagSchema.Command.Report
import TagSchema.Json.Printer
import TagSchema.Schema.Directory
import TagSchema.Schema.Report

/-!
# The program

A run takes a file tree and arguments to an exit code, two texts, and the file tree that it leaves
behind. What a failed run has shown and written before it failed stays.
-/

namespace TagSchema.Command

/-- Why a run failed: a message, and what caused it, outermost first. -/
structure Failure where
  message : String
  causes : List String := []

namespace Failure

/-- A failure of the schema. -/
def ofSchema (error : SchemaError) : Failure := { message := error.message, causes := error.causes }

/-- A failure inside a task. -/
def during (task : String) (cause : Failure) : Failure :=
  { message := task, causes := cause.message :: cause.causes }

/-- The lines of causes. They are numbered if there are several. -/
def causeLines : List String → List String
  | [cause] => ["    " ++ cause]
  | causes => causes.mapIdx fun position cause => s!"    {position}: {cause}"

/-- The text of a failure. -/
def render (failure : Failure) : String :=
  let lines :=
    ("Error: " ++ failure.message) ::
      if failure.causes.isEmpty then [] else ["", "Caused by:"] ++ causeLines failure.causes
  String.join (lines.map (· ++ "\n"))

end Failure

/-- The state of a run: the file tree, and the lines shown so far, the last one first. -/
structure Session where
  tree : FileTree
  shown : List String := []

/-- A step of a run. -/
abbrev Running := ExceptT Failure (StateM Session)

/-- Shows some lines. -/
def showLines (lines : List String) : Running Unit :=
  modify fun session => { session with shown := lines.reverse ++ session.shown }

/-- Shows lines in a run that reports on its progress. -/
def showIf (verbose : Bool) (lines : List String) : Running Unit :=
  if verbose then showLines lines else pure ()

/-- The result of something that concerns the schema. -/
def ofSchema {α : Type} : Except SchemaError α → Running α
  | .ok value => pure value
  | .error error => throw (.ofSchema error)

/-- Changes the file tree. -/
def change (task : String) (step : FileTree → Except FileFault FileTree) : Running Unit := do
  match step (← get).tree with
  | .ok tree => modify fun session => { session with tree }
  | .error fault => throw (.during task { message := fault.message })

/-! ### Loading -/

/-- The group of a schema file. -/
def loadFile (verbose : Bool) (directory file : String) : Running DefinitionGroup := do
  let group ← ofSchema (SchemaDirectory.load (← get).tree directory file)
  showIf verbose [s!"  - {Path.join directory file} ({group.definitions.length} definitions)"]
  return group

/-- The analysis of a schema directory. Warnings are shown in every run. -/
def loadAndAnalyze (verbose : Bool) (directory : String) : Running Analysis := do
  showIf verbose [s!"[~] Loading schema files from {directory}..."]
  let files ← ExceptT.adapt (.during s!"cannot list schema directory {directory}")
    (ofSchema (SchemaDirectory.files (← get).tree directory))
  let groups ← files.mapM (loadFile verbose directory)
  showIf verbose [s!"[~] Resolving {groups.length} definition group(s)..."]
  match analyze groups with
  | .error error =>
    showLines ["[✗] " ++ error.message]
    throw (.ofSchema error)
  | .ok analysis =>
    let schema := analysis.schema
    showIf verbose [s!"[✓] {schema.enums.length} enums, {schema.bitfields.length} bitfields, " ++
      s!"{schema.structs.length} structs"]
    match analysis.warnings with
    | [] => showIf verbose ["[✓] No warnings"]
    | warnings => showLines (warnings.map ("  [!] " ++ ·))
    return analysis

/-! ### Subcommands -/

/-- The title of a report and the line under it. -/
def banner (title : String) : List String := [title, String.ofList (List.replicate 36 '='), ""]

/-- The settings of a run that emits code. -/
def configuration (schema output : String) (options : Emit.Options) : List String :=
  banner "Tag Generator - Code Generation Tool" ++
  ["[~] Configuration:",
    s!"  Schema directory: {schema}",
    s!"  Output: {output}",
    s!"  Runtime crate: {options.runtimeCrate}",
    s!"  Extract hidden fields: {options.extractHidden}",
    ""]

/-- Writes one target. -/
def emitTarget (verbose : Bool) (target : Emit.Target) (schema output : String)
    (options : Emit.Options) : Running Unit := do
  showIf verbose (configuration schema output options)
  let analysis ← loadAndAnalyze verbose schema
  showIf verbose ["", s!"[*] Emitting {target.moduleName}..."]
  let text := target.emit analysis.schema options
  let parent := Path.parent output
  if !parent.isEmpty then
    change s!"cannot create {parent}" (·.createDirectory (Path.components parent))
  change s!"cannot write {output}" (·.writeAt output text)
  showLines [s!"[✓] Wrote {output} ({analysis.schema.structs.length} structs, " ++
    s!"{text.utf8ByteSize} bytes)"]

/-- Writes every target into a directory. -/
def generateAll (verbose : Bool) (schema output : String) (options : Emit.Options) :
    Running Unit := do
  showIf verbose (configuration schema output options)
  let analysis ← loadAndAnalyze verbose schema
  showIf verbose ["", s!"[*] Running {Emit.Target.all.length} codegen passes..."]
  let files := Emit.files analysis.schema options
  let task := s!"cannot write generated sources to {output}"
  change task (·.createDirectory (Path.components output))
  files.forM fun (name, text) =>
    change task (·.writeAt (Path.join output name) text)
  showIf verbose (files.map fun (name, _) => "  - " ++ Path.join output name)
  showLines [s!"[✓] Generated {files.length} files for {analysis.schema.structs.length} structs " ++
    s!"in {output}"]

/-- Reports on a schema. -/
def report (schema : String) (json : Bool) : Running Unit := do
  if json then
    let analysis ← loadAndAnalyze false schema
    showLines [Json.pretty 0 analysis.toNode]
  else
    showLines (banner "Tag Generator - Schema Analysis Tool")
    let analysis ← loadAndAnalyze true schema
    showLines (Report.lines analysis)

/-- Does what is asked for. -/
def perform (invocation : Invocation) : Running Unit :=
  match invocation.request with
  | .emit target schema output options =>
    emitTarget invocation.verbose target schema output options
  | .generate schema output options => generateAll invocation.verbose schema output options
  | .analyze schema json => report schema json

/-! ### Runs -/

/-- What a run leaves behind. -/
structure Outcome where
  code : UInt8
  stdout : String
  stderr : String
  tree : FileTree

/-- The run of an invocation: code one if it fails. -/
def runInvocation (tree : FileTree) (invocation : Invocation) : Outcome :=
  let (result, session) := (perform invocation).run.run { tree }
  let stdout := String.join (session.shown.reverse.map (· ++ "\n"))
  match result with
  | .ok _ => { code := 0, stdout, stderr := "", tree := session.tree }
  | .error failure => { code := 1, stdout, stderr := failure.render, tree := session.tree }

/-- The run of the program on some arguments: code two if they are not used as they should be. -/
def run (tree : FileTree) (arguments : List String) : Outcome :=
  match parse? arguments with
  | some invocation => runInvocation tree invocation
  | none => { code := 2, stdout := "", stderr := usage, tree }

end TagSchema.Command
