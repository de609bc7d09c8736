import TagSchema.Decimal.Binary

/-!
# Documents

The tree that a structured text stands for, whatever notation it is written in. Whole numbers and
other numbers are kept apart, since a reader may ask for the one or the other.
-/

namespace TagSchema

/-- A document or a part of one. -/
inductive Node where
  | null
  | bool (value : Bool)
  | whole (value : Int)
  | real (value : Binary64)
  | text (value : String)
  | list (items : List Node)
  | map (entries : List (Node × Node))
  deriving Inhabited

namespace Node

/-- A map with texts as keys. -/
def record (entries : List (String × Node)) : Node :=
  .map (entries.map fun (key, value) => (.text key, value))

/-- The first value under a key of a map. -/
def get? (node : Node) (key : String) : Option Node :=
  match node with
  | .map entries =>
    entries.findSome? fun (name, value) =>
      match name with
      | .text name => if name = key then some value else none
      | _ => none
  | _ => none

end Node

end TagSchema
