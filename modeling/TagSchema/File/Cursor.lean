import TagSchema.Handle

/-!
# Reading tag files

A cursor goes through the body of a tag file and never back. What a failed operation has consumed
before it failed stays consumed.
-/

namespace TagSchema

/-- A place in the body of a tag file. -/
structure Cursor where
  /-- The bytes consumed so far. -/
  position : Nat := 0
  rest : Bytes

/-- Reading at a cursor. -/
abbrev Reading := ExceptT TagError (StateM Cursor)

namespace Cursor

/-- The next bytes. -/
def take (what : String) (count : Nat) : Reading Bytes := do
  let cursor ← get
  if cursor.rest.length < count then
    throw (.outOfBounds (.cursor what count cursor.position cursor.rest.length))
  set { cursor with position := cursor.position + count, rest := cursor.rest.drop count }
  return cursor.rest.take count

/-- Checks that nothing is left. -/
def finish (cursor : Cursor) : Except TagError Unit :=
  if cursor.rest.isEmpty then .ok ()
  else .error (.invalidData (.leftOver cursor.position (cursor.position + cursor.rest.length)))

/-- The path that a terminated run of bytes spells. -/
def decodePath (what : String) (length : Nat) (bytes : Bytes) : Except TagError String :=
  let path := bytes.take length
  if bytes[length]? ≠ some 0 then .error (.invalidData (.noTerminator what))
  else if path.contains 0 then .error (.invalidData (.earlyTerminator what))
  else
    match Text.decodeUtf8? path with
    | some path => .ok path
    | none => .error (.invalidData (.notUtf8 what))

/-- The dependency of a handle, whose path comes next. Only the class and the length of the path are
looked at; a null class is restored to the default. -/
def readDependency (site : Site) (default : Option TagClass) (tagClass : TagClass)
    (pathSize : Nat) : Reading Dependency := do
  let tagClass := Dependency.restoreClass default tagClass
  if pathSize = 0 then return .nullOf tagClass
  let what := site.render ++ " path"
  let bytes ← take what (pathSize + 1)
  return .toTag tagClass (← decodePath what pathSize bytes)

/-- The elements whose fixed parts are given, the index of the first one first. -/
def readElements {α : Type} (site : Site) (size : Nat) (element : Bytes → Reading α) :
    Nat → Nat → Bytes → Reading (List α)
  | _, 0, _ => return []
  | index, count + 1, fixed => do
    let first ← ExceptT.adapt (.element .parse site index) (element (fixed.take size))
    let rest ← readElements site size element (index + 1) count (fixed.drop size)
    return first :: rest

/-- The elements of an array. The fixed parts of all of them come first. -/
def readArray {α : Type} (site : Site) (count size : Nat) (element : Bytes → Reading α) :
    Reading (List α) := do
  if UInt64.size ≤ count * size then throw (.outOfBounds (.countTooLarge site count))
  let fixed ← take site.field (count * size)
  readElements site size element 0 count fixed

/-- The bytes of a blob. -/
def readBlob (site : Site) (size : Nat) : Reading Bytes := take (site.render ++ " data") size

end Cursor

end TagSchema
