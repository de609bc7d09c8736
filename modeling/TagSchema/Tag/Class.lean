import TagSchema.Tag.ClassTable
import TagSchema.Text.Hex

/-!
# Tag classes

A class code, with the two codes that stand for no class at all.
-/

namespace TagSchema

/-- A four-character class code. -/
structure TagClass where
  code : UInt32
  deriving DecidableEq, Inhabited

namespace TagClass

/-- The code of an unset class. -/
def null : TagClass := ⟨0⟩

/-- The code of an explicitly absent class. -/
def none : TagClass := ⟨0xFFFFFFFF⟩

/-- Whether the code stands for no class. -/
def isNull (tagClass : TagClass) : Bool := decide (tagClass = null ∨ tagClass = none)

/-- The class of a name. -/
def ofName? (name : String) : Option TagClass :=
  if name = "null" then some null
  else if name = "none" then some none
  else (ClassTable.byName? name).map (⟨·.code⟩)

/-- The name of a known class. -/
def name? (tagClass : TagClass) : Option String :=
  if tagClass = null then some "null"
  else if tagClass = none then some "none"
  else (ClassTable.byCode? tagClass.code).map (·.name)

/-- The version that files of a known class carry. -/
def version? (tagClass : TagClass) : Option UInt16 :=
  (ClassTable.byCode? tagClass.code).map (·.version)

/-- The name of a class, or its code when it has none. -/
def render (tagClass : TagClass) : String :=
  tagClass.name?.getD ("unknown (" ++ Text.hexPadded 8 tagClass.code.toNat ++ ")")

/-- A list of allowed classes in words, each after a space: `a`, `a or b`, `a, b, or c`. -/
def renderChoice (classes : List TagClass) : String :=
  match classes.map render with
  | [] => ""
  | [one] => " " ++ one
  | [a, b] => " " ++ a ++ " or " ++ b
  | names =>
    String.join (names.dropLast.map fun name => " " ++ name ++ ",") ++
      " or " ++ names.getLastD ""

end TagClass

end TagSchema
