import TagSchema.Emit.Target

/-!
# Command lines

The arguments of the program: a subcommand, its schema directory, and options that may come anywhere
after it. An option is given at most once.
-/

namespace TagSchema.Command

/-- What the program is asked to do. -/
inductive Request where
  /-- Write one target. -/
  | emit (target : Emit.Target) (schema output : String) (options : Emit.Options)
  /-- Write every target into a directory. -/
  | generate (schema output : String) (options : Emit.Options)
  /-- Report on a schema, as JSON or as text. -/
  | analyze (schema : String) (json : Bool)

/-- A request, and whether to report on its progress. -/
structure Invocation where
  verbose : Bool
  request : Request

/-- An option: its long name, its letter if it has one, and whether it takes a value. -/
structure OptionForm where
  long : String
  letter : Option Char := none
  takesValue : Bool := false

namespace OptionForm

/-- The option that is taken everywhere. -/
def verbose : OptionForm := { long := "verbose", letter := some 'v' }

/-- Where to write. -/
def output : OptionForm := { long := "output", letter := some 'o', takesValue := true }

/-- The crate that the emitted code imports. -/
def runtimeCrate : OptionForm := { long := "runtime-crate", takesValue := true }

/-- Whether files keep hidden data. -/
def extractHidden : OptionForm := { long := "extract-hidden" }

/-- Whether to report as JSON. -/
def json : OptionForm := { long := "json" }

end OptionForm

/-- What a list of arguments holds: words, and options with their values. -/
structure Scan where
  words : List String := []
  options : List (String × Option String) := []

namespace Scan

/-- Whether an option was given. -/
def has (scan : Scan) (form : OptionForm) : Bool := scan.options.any (·.1 = form.long)

/-- The value of an option. -/
def value? (scan : Scan) (form : OptionForm) : Option String :=
  (scan.options.find? (·.1 = form.long)).bind (·.2)

/-- The scan with one more word. -/
def addWord (scan : Scan) (word : String) : Scan := { scan with words := scan.words ++ [word] }

/-- The scan with one more option, which must not have been given before. -/
def addOption (scan : Scan) (form : OptionForm) (value : Option String) : Option Scan :=
  if scan.has form then none
  else some { scan with options := scan.options ++ [(form.long, value)] }

/-- A scan, and the option whose value has to come next. -/
structure Pending where
  scan : Scan
  awaiting : Option OptionForm := none

/-- An option by its long name, perhaps with a value after an equals sign. -/
def long (forms : List OptionForm) (scan : Scan) (text : List Char) : Option Pending := do
  let name := String.ofList (text.takeWhile (· ≠ '='))
  let form ← forms.find? (·.long = name)
  match text.dropWhile (· ≠ '='), form.takesValue with
  | [], true => return { scan, awaiting := some form }
  | [], false => return { scan := ← scan.addOption form none }
  | _ :: value, true => return { scan := ← scan.addOption form (some (String.ofList value)) }
  | _ :: _, false => none

/-- Options by their letters. What follows a letter that takes a value is its value. -/
def letters (forms : List OptionForm) (scan : Scan) : List Char → Option Pending
  | [] => some { scan }
  | letter :: rest => do
    let form ← forms.find? (·.letter = some letter)
    match form.takesValue, rest with
    | false, _ => letters forms (← scan.addOption form none) rest
    | true, [] => return { scan, awaiting := some form }
    | true, '=' :: value | true, value =>
      return { scan := ← scan.addOption form (some (String.ofList value)) }

/-- One argument. A hyphen alone is a word. -/
def argument (forms : List OptionForm) (scan : Scan) (text : String) : Option Pending :=
  match text.toList with
  | '-' :: '-' :: name => long forms scan name
  | '-' :: c :: rest => letters forms scan (c :: rest)
  | _ => some { scan := scan.addWord text }

/-- Whether an argument can be the value of an option before it. -/
def isValue (text : String) : Bool := !text.startsWith "-" || text = "-"

/-- All arguments. After two hyphens there are words only. -/
def all (forms : List OptionForm) : Pending → List String → Option Scan
  | { scan, awaiting := none }, [] => some scan
  | { awaiting := some _, .. }, [] => none
  | { scan, awaiting := some form }, text :: rest =>
    if isValue text then do all forms { scan := ← scan.addOption form (some text) } rest
    else none
  | { scan, awaiting := none }, text :: rest =>
    if text = "--" then some (rest.foldl addWord scan)
    else do all forms (← argument forms scan text) rest

end Scan

/-- A path given as an argument; it may not be empty. -/
def path? (text : String) : Option String := if text.isEmpty then none else some text

/-- The options of emission. -/
def emitOptions (scan : Scan) : Emit.Options :=
  { extractHidden := scan.has .extractHidden
    runtimeCrate := (scan.value? .runtimeCrate).getD ({} : Emit.Options).runtimeCrate }

/-- The one word of a scan: the schema directory. -/
def schemaOf (scan : Scan) : Option String :=
  match scan.words with
  | [word] => path? word
  | _ => none

/-- The scan of the arguments of a subcommand with the given options. -/
def scanFor (forms : List OptionForm) (arguments : List String) : Option Scan :=
  Scan.all (.verbose :: forms) { scan := {} } arguments

/-- The arguments of a subcommand that writes one target. -/
def emitRequest (target : Emit.Target) (arguments : List String) : Option (Scan × Request) := do
  let hidden := if target = .fileCodec then [OptionForm.extractHidden] else []
  let scan ← scanFor (.output :: .runtimeCrate :: hidden) arguments
  let output ← (scan.value? .output).bind path?
  return (scan, .emit target (← schemaOf scan) output (emitOptions scan))

/-- The directory that everything is written into unless another one is given. -/
def defaultOutput : String := "generated"

/-- The arguments of a subcommand. -/
def request : String → List String → Option (Scan × Request)
  | "definitions", arguments => emitRequest .definitions arguments
  | "packed-codec", arguments => emitRequest .packedCodec arguments
  | "file-codec", arguments => emitRequest .fileCodec arguments
  | "validators", arguments => emitRequest .validators arguments
  | "reflection", arguments => emitRequest .reflection arguments
  | "generate", arguments => do
    let scan ← scanFor [.output, .runtimeCrate, .extractHidden] arguments
    let output ← path? ((scan.value? .output).getD defaultOutput)
    return (scan, .generate (← schemaOf scan) output (emitOptions scan))
  | "analyze", arguments => do
    let scan ← scanFor [.json] arguments
    return (scan, .analyze (← schemaOf scan) (scan.has .json))
  | _, _ => none

/-- The arguments after the options that come before the subcommand. -/
def parseFrom (scan : Scan) : List String → Option Invocation
  | [] => none
  | text :: rest =>
    if isOption text then do
      let { scan, awaiting := none } ← Scan.argument [.verbose] scan text | none
      parseFrom scan rest
    else do
      let (inner, request) ← request text rest
      return { verbose := scan.has .verbose || inner.has .verbose, request }
where
  /-- Whether an argument is no word. -/
  isOption (text : String) : Bool := text.startsWith "-" && text ≠ "-" && text ≠ "--"

/-- The invocation that a list of arguments stands for, if they are used as they should be. -/
def parse? (arguments : List String) : Option Invocation := parseFrom {} arguments

/-- How the program is used. -/
def usage : String :=
  "Usage: tag-gen [-v] <COMMAND> <SCHEMA_DIR> [OPTIONS]\n\n" ++
  "Commands:\n" ++
  "  definitions, packed-codec, file-codec, validators, reflection\n" ++
  "                 write one target: -o FILE [--runtime-crate CRATE]\n" ++
  "                 (file-codec also takes --extract-hidden)\n" ++
  "  generate       write every target: [-o DIR] [--runtime-crate CRATE] [--extract-hidden]\n" ++
  "  analyze        report on the schema: [--json]\n"

end TagSchema.Command
