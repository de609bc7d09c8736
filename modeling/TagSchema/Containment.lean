import TagSchema.Tag.Id

/-!
# Containment

While a value is walked through, every struct on the way to the current one has a frame with the
lengths of its arrays. An index finds the array that it points into in the innermost frame of a
struct that has it.
-/

namespace TagSchema

/-- A struct on the way, and the lengths of its arrays. -/
structure Frame where
  struct : String
  lengths : List (String × Nat)
  deriving DecidableEq

/-- The frames entered and not left, kept in an arena with a stack of positions in it. -/
structure ContainmentStack where
  arena : List Frame := []
  positions : List Nat := []
  deriving DecidableEq

namespace ContainmentStack

/-- The stack with one more frame. -/
def enter (stack : ContainmentStack) (frame : Frame) : ContainmentStack :=
  { arena := stack.arena ++ [frame], positions := stack.positions ++ [stack.arena.length] }

/-- The stack without its innermost frame. -/
def leave (stack : ContainmentStack) : ContainmentStack :=
  match stack.positions.getLast? with
  | none => stack
  | some position =>
    { arena := stack.arena.take position, positions := stack.positions.dropLast }

/-- The number of frames. -/
def depth (stack : ContainmentStack) : Nat := stack.positions.length

/-- The frames, the innermost one first. -/
def frames (stack : ContainmentStack) : List Frame :=
  stack.positions.reverse.filterMap (stack.arena[·]?)

/-- The length of an array in the innermost frame of one of the given structs. -/
def arrayLength? (stack : ContainmentStack) (structs : List String) (member : String) :
    Option Nat :=
  (stack.frames.find? (structs.contains ·.struct)).bind fun frame =>
    (frame.lengths.find? (·.1 = member)).map (·.2)

/-- The length of the array that an index passes. The null index passes none, and neither does an
index whose array is not on the way. -/
def passedLength? (stack : ContainmentStack) (structs : List String) (member : String)
    (index : Nat) : Option Nat :=
  if index = nullIndex.toNat then none
  else (stack.arrayLength? structs member).filter (· ≤ index)

end ContainmentStack

end TagSchema
