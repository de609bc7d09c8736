import TagSchema.Text.Utf8

/-!
# File trees

A directory tree held in memory: what a command reads, and what it leaves behind. Paths are relative
to the root of the tree and are written with slashes.
-/

namespace TagSchema

/-- Why a file or directory cannot be used. -/
inductive FileFault where
  | notFound
  | notDirectory
  | isDirectory
  | alreadyExists
  | notUtf8
  deriving DecidableEq

/-- The wording of a fault. -/
def FileFault.message : FileFault → String
  | .notFound => "No such file or directory (os error 2)"
  | .notDirectory => "Not a directory (os error 20)"
  | .isDirectory => "Is a directory (os error 21)"
  | .alreadyExists => "File exists (os error 17)"
  | .notUtf8 => "stream did not contain valid UTF-8"

namespace Path

/-- One more component of a resolved path; `..` leads back. -/
def descend (resolved : List String) (component : String) : List String :=
  if component = "" ∨ component = "." then resolved
  else if component = ".." ∧ !resolved.isEmpty then resolved.dropLast
  else resolved ++ [component]

/-- The components of a path. An absolute path keeps a slash as its first component. -/
def components (path : String) : List String :=
  let relative := (path.splitOn "/").foldl descend []
  if path.startsWith "/" then "/" :: relative else relative

/-- The path of an entry of a directory. -/
def join (directory name : String) : String :=
  if directory.endsWith "/" then directory ++ name else directory ++ "/" ++ name

/-- A path without slashes at its end. -/
def trimEnd (path : List Char) : List Char := (path.reverse.dropWhile (· = '/')).reverse

/-- The path of the directory that holds a path, as it is written; empty if none is written. -/
def parent (path : String) : String :=
  let directory := (trimEnd path.toList).reverse.dropWhile (· ≠ '/')
  match trimEnd directory.reverse with
  | [] => if directory.isEmpty then "" else "/"
  | parent => String.ofList parent

/-- A file name cut before its last point. A point at its start does not count. -/
def splitName (name : String) : String × Option String :=
  let reversed := name.toList.reverse
  let extension := reversed.takeWhile (· ≠ '.')
  match reversed.drop extension.length with
  | [] | [_] => (name, none)
  | _ :: stem => (String.ofList stem.reverse, some (String.ofList extension.reverse))

/-- The name of a file without its extension. -/
def stem (name : String) : String := (splitName name).1

/-- The extension of a file name. -/
def extension? (name : String) : Option String := (splitName name).2

end Path

/-- Files with their contents, and directories. Every directory on the way to one of them is there
too. -/
structure FileTree where
  files : List (List String × Bytes) := []
  directories : List (List String) := []

namespace FileTree

/-- The contents of a file. -/
def file? (tree : FileTree) (path : List String) : Option Bytes :=
  (tree.files.find? (·.1 = path)).map (·.2)

/-- Whether there is a directory. -/
def isDirectory (tree : FileTree) (path : List String) : Bool :=
  path.isEmpty || tree.directories.any (path.isPrefixOf ·) ||
    tree.files.any fun (file, _) => path.isPrefixOf file && decide (path.length < file.length)

/-- Why a path is not a directory. -/
def missing (tree : FileTree) (path : List String) : FileFault :=
  if tree.files.any fun (file, _) => file.isPrefixOf path then .notDirectory else .notFound

/-- The names of the files in a directory. -/
def filesIn (tree : FileTree) (directory : List String) : Except FileFault (List String) :=
  if tree.isDirectory directory then
    .ok (tree.files.filterMap fun (file, _) =>
      if file.dropLast = directory then file.getLast? else none)
  else .error (tree.missing directory)

/-- The text of a file. -/
def readText (tree : FileTree) (path : List String) : Except FileFault String :=
  match tree.file? path with
  | none => .error (if tree.isDirectory path then .isDirectory else tree.missing path)
  | some bytes =>
    match Text.decodeUtf8? bytes with
    | some text => .ok text
    | none => .error .notUtf8

/-- The tree with a directory and all directories on the way to it. -/
def createDirectory (tree : FileTree) (path : List String) : Except FileFault FileTree :=
  if (tree.file? path).isSome then .error .alreadyExists
  else if tree.isDirectory path then .ok tree
  else if tree.files.any fun (file, _) => file.isPrefixOf path then .error .notDirectory
  else .ok { tree with directories := tree.directories ++ [path] }

/-- The tree with a file written anew. -/
def write (tree : FileTree) (path : List String) (text : String) : Except FileFault FileTree :=
  if tree.isDirectory path then .error .isDirectory
  else if !tree.isDirectory path.dropLast then .error (tree.missing path.dropLast)
  else
    let kept := tree.files.filter (·.1 ≠ path)
    .ok { tree with files := kept ++ [(path, Text.utf8 text)] }

/-- The tree with the file of a written path anew. A slash at its end makes it that of a
directory. -/
def writeAt (tree : FileTree) (path text : String) : Except FileFault FileTree :=
  if path.endsWith "/" then .error .isDirectory else tree.write (Path.components path) text

end FileTree

end TagSchema
