import TagSchema.Tag.Class
import TagSchema.Tag.Id
import TagSchema.Text.Case

/-!
# Dependencies

A dependency refers to another tag by class and path, and by identifier once both are in a bundle.
It is null when its path is empty, and may still carry a class then.
-/

namespace TagSchema

/-- A reference to another tag. Paths are separated by backslashes and have no extension. -/
structure Dependency where
  tagClass : TagClass := .null
  path : String := ""
  id : TagId := .null
  deriving DecidableEq, Inhabited

namespace Dependency

/-- A reference without an identifier. -/
def toTag (tagClass : TagClass) (path : String) : Dependency := { tagClass, path }

/-- A null reference that carries a class. -/
def nullOf (tagClass : TagClass) : Dependency := { tagClass }

/-- Whether the reference refers to nothing. -/
def isNull (d : Dependency) : Bool := d.path.isEmpty

/-- The last component of the path. -/
def title? (d : Dependency) : Option String :=
  if d.isNull then none
  else some (String.ofList (d.path.toList.reverse.takeWhile (· ≠ '\\')).reverse)

/-- A null class replaced by the default, if there is one. -/
def restoreClass (default : Option TagClass) (tagClass : TagClass) : TagClass :=
  if tagClass = .null then default.getD .null else tagClass

/-! ### Checks that can mend what they find -/

/-- Whether the class is not among the allowed ones. Mending leaves a null reference to the first of
them. -/
def fixReference (classes : List TagClass) (fix : Bool) (d : Dependency) : Bool × Dependency :=
  if classes.isEmpty || classes.contains d.tagClass then (false, d)
  else (true, if fix then nullOf (classes.headD .null) else d)

/-- Whether the path has an upper-case character. Mending lowers the whole path. -/
def fixUppercase (fix : Bool) (d : Dependency) : Bool × Dependency :=
  if d.path.toList.any Text.isUppercase then
    (true, if fix then { d with path := Text.lowercase d.path } else d)
  else (false, d)

/-- Replaces the reference by `target` if it refers to `source`, where the case of ASCII letters in
the path does not count. -/
def refactor (source target : Dependency) (d : Dependency) : Bool × Dependency :=
  if d.tagClass = source.tagClass ∧ Text.equalIgnoringAsciiCase d.path source.path then
    (true, Dependency.toTag target.tagClass target.path)
  else (false, d)

end Dependency

end TagSchema
