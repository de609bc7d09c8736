import TagSchema.Command.Run

/-!
# The command line

Takes the parts of the file system that a run needs into a file tree, runs, and writes back what the
run has written.
-/

namespace TagSchema.Command

/-- The entries of a directory, with the contents of its files. -/
def loadDirectory (tree : FileTree) (directory : String) : IO FileTree := do
  let components := Path.components directory
  let mut tree := { tree with directories := components :: tree.directories }
  for entry in ← (System.mkFilePath [directory]).readDir do
    let path := components ++ [entry.fileName]
    if ← entry.path.isDir then
      tree := { tree with directories := path :: tree.directories }
    else
      let contents ← IO.FS.readBinFile entry.path
      tree := { tree with files := (path, contents.data.toList) :: tree.files }
  return tree

/-- What is at a path: a directory with its entries, a file, or nothing. -/
def loadPath (tree : FileTree) (path : String) : IO FileTree := do
  let location := System.mkFilePath [path]
  if ← location.isDir then loadDirectory tree path
  else if ← location.pathExists then
    return { tree with files := (Path.components path, []) :: tree.files }
  else return tree

/-- What is at a path and at every directory on the way to it. -/
def loadWay (tree : FileTree) (path : String) : Nat → IO FileTree
  | 0 => return tree
  | depth + 1 => do
    let tree ← loadPath tree path
    let parent := Path.parent path
    if parent.isEmpty || parent = path then return tree else loadWay tree parent depth

/-- The schema directory of a request. -/
def Request.schema : Request → String
  | .emit _ schema _ _ | .generate schema _ _ | .analyze schema _ => schema

/-- Where a request writes. -/
def Request.output? : Request → Option String
  | .emit _ _ output _ | .generate _ output _ => some output
  | .analyze _ _ => none

/-- The files that a run has written, at their real paths. -/
def store (outcome : Outcome) (output : String) : IO Unit := do
  let root := if output.startsWith "/" then "/" else ""
  for (path, contents) in outcome.tree.files do
    if (Path.components output).isPrefixOf path && !contents.isEmpty then
      let names := path.filter (· ≠ "/")
      let location := System.mkFilePath [root ++ String.intercalate "/" names]
      if let some parent := location.parent then IO.FS.createDirAll parent
      IO.FS.writeBinFile location ⟨contents.toArray⟩

end TagSchema.Command

open TagSchema.Command in
/-- Runs the program. -/
def main (arguments : List String) : IO UInt32 := do
  let outcome ←
    match parse? arguments with
    | none => pure (run {} arguments)
    | some invocation => do
      let request := invocation.request
      let tree ← loadPath {} request.schema
      let tree ←
        match request.output? with
        | some output => loadWay tree output output.length
        | none => pure tree
      let outcome := runInvocation tree invocation
      if let some output := request.output? then store outcome output
      pure outcome
  IO.print outcome.stdout
  IO.eprint outcome.stderr
  return outcome.code.toUInt32
