import TagSchema.Proofs.Index.Traversal

/-!
# The containment stack is a list of frames

Entering puts a frame on top of a stack, and leaving uncovers the stack below it just as it was
(`leave_enter`). So a run of moves that leaves only what it has entered ends in the stack that it
began with, under the frames that are still open (`run_holding`). Beginning from nothing, arena and
positions are then those of the open frames, and a lookup goes through these from the inside out.
-/

namespace TagSchema

namespace ContainmentStack

/-- A step of a walk: into a struct, or out of the struct that was entered last. -/
inductive Move where
  | enter (frame : Frame)
  | leave

namespace Move

/-- The open frames after a step, the innermost one first. Where none is open, none can be left. -/
def next? (open_ : List Frame) : Move → Option (List Frame)
  | .enter frame => some (frame :: open_)
  | .leave => open_.tail?

/-- The frames that are open after some steps from nothing, the innermost one first. There are none
if the steps do not leave what they have entered in the reverse order. -/
def open? (moves : List Move) : Option (List Frame) := moves.foldlM next? []

end Move

/-- The stack after a step. -/
def move (stack : ContainmentStack) : Move → ContainmentStack
  | .enter frame => stack.enter frame
  | .leave => stack.leave

/-- The stack after some steps. -/
def run (stack : ContainmentStack) (moves : List Move) : ContainmentStack :=
  moves.foldl move stack

/-- The stack with some more frames on it, the innermost one first. -/
def holding (stack : ContainmentStack) (frames : List Frame) : ContainmentStack :=
  frames.foldr (fun frame below => below.enter frame) stack

variable {stack : ContainmentStack} {moves : List Move} {frames frames' : List Frame}

/-! ### Runs -/

/-- Leaving takes back entering. -/
theorem leave_enter (stack : ContainmentStack) (frame : Frame) :
    (stack.enter frame).leave = stack := by
  simp [enter, leave]

/-- A step changes the frames on top of a stack and leaves the stack below alone. -/
theorem move_holding {move : Move} (h : move.next? frames = some frames') :
    (stack.holding frames).move move = stack.holding frames' := by
  cases move with
  | enter frame =>
    obtain rfl := Option.some.inj h
    rfl
  | leave =>
    cases frames with
    | nil => cases h
    | cons frame outer =>
      obtain rfl := Option.some.inj h
      exact leave_enter _ frame

theorem run_holding (h : moves.foldlM Move.next? frames = some frames') :
    (stack.holding frames).run moves = stack.holding frames' := by
  induction moves generalizing frames with
  | nil =>
    obtain rfl := Option.some.inj h
    rfl
  | cons move rest ih =>
    rw [List.foldlM_cons] at h
    obtain ⟨next, first, others⟩ := Option.bind_eq_some_iff.mp h
    rw [run, List.foldl_cons, move_holding first]
    exact ih others

/-- What is entered and left again, with all that was entered in between, leaves no trace. -/
theorem run_closed (closed : Move.open? moves = some []) (stack : ContainmentStack) :
    stack.run moves = stack :=
  run_holding closed

/-! ### Frames held from nothing -/

theorem arena_holding (frames : List Frame) : (holding {} frames).arena = frames.reverse := by
  induction frames with
  | nil => rfl
  | cons frame outer ih =>
    rw [List.reverse_cons, ← ih]
    rfl

theorem positions_holding (frames : List Frame) :
    (holding {} frames).positions = List.range frames.length := by
  induction frames with
  | nil => rfl
  | cons frame outer ih =>
    rw [List.length_cons, List.range_succ, ← ih, ← List.length_reverse, ← arena_holding]
    rfl

theorem frames_holding (frames : List Frame) : (holding {} frames).frames = frames := by
  induction frames with
  | nil => rfl
  | cons frame outer ih =>
    have valid : ∀ position ∈ (holding {} outer).positions,
        position < (holding {} outer).arena.length := by
      intro position h
      rw [arena_holding, List.length_reverse]
      rw [positions_holding] at h
      exact List.mem_range.mp h
    exact (frames_enter valid frame).trans (congrArg (frame :: ·) ih)

/-! ### Lookups -/

/-- What is known of the length of an array from a list of frames, the innermost one first: the
innermost frame of one of the given structs has the say, and in it the first entry of the member. -/
inductive Finds (structs : List String) (member : String) : List Frame → Option Nat → Prop
  | nowhere {frames : List Frame} (others : ∀ frame ∈ frames, frame.struct ∉ structs) :
      Finds structs member frames none
  | missing {inner outer : List Frame} {frame : Frame}
      (others : ∀ frame ∈ inner, frame.struct ∉ structs) (here : frame.struct ∈ structs)
      (absent : ∀ entry ∈ frame.lengths, entry.1 ≠ member) :
      Finds structs member (inner ++ frame :: outer) none
  | recorded {inner outer : List Frame} {frame : Frame} {before behind : List (String × Nat)}
      {length : Nat} (others : ∀ frame ∈ inner, frame.struct ∉ structs)
      (here : frame.struct ∈ structs)
      (entry : frame.lengths = before ++ (member, length) :: behind)
      (first : ∀ entry ∈ before, entry.1 ≠ member) :
      Finds structs member (inner ++ frame :: outer) (some length)

variable {structs : List String} {member : String} {result : Option Nat}

/-- The innermost frame of one of the given structs has the say. -/
theorem arrayLength?_of_frames {inner outer : List Frame} {frame : Frame}
    (h : stack.frames = inner ++ frame :: outer)
    (others : ∀ frame ∈ inner, frame.struct ∉ structs) (here : frame.struct ∈ structs) :
    stack.arrayLength? structs member = (frame.lengths.find? (·.1 = member)).map (·.2) := by
  have skipped : inner.find? (fun frame => structs.contains frame.struct) = none :=
    List.find?_eq_none.mpr fun frame h => by simpa using others frame h
  rw [arrayLength?, h, List.find?_append, skipped, Option.none_or,
    List.find?_cons_of_pos (by simpa using here), Option.bind_some]

theorem Finds.arrayLength?_eq (finds : Finds structs member stack.frames result) :
    stack.arrayLength? structs member = result := by
  generalize h : stack.frames = frames at finds
  cases finds with
  | nowhere others =>
    have none_ : frames.find? (fun frame => structs.contains frame.struct) = none :=
      List.find?_eq_none.mpr fun frame h => by simpa using others frame h
    rw [arrayLength?, h, none_, Option.bind_none]
  | missing others here absent =>
    rw [arrayLength?_of_frames h others here,
      List.find?_eq_none.mpr fun entry h => by simpa using absent entry h, Option.map_none]
  | @recorded inner outer frame before behind length others here entry first =>
    have skipped : before.find? (fun entry => decide (entry.1 = member)) = none :=
      List.find?_eq_none.mpr fun entry h => by simpa using first entry h
    rw [arrayLength?_of_frames h others here, entry, List.find?_append, skipped, Option.none_or,
      List.find?_cons_of_pos (by simp), Option.map_some]

/-- Every list of frames has an answer. -/
theorem exists_finds (structs : List String) (member : String) (frames : List Frame) :
    ∃ result, Finds structs member frames result := by
  -- The innermost frame of a struct of these decides, whether or not it has the array.
  cases found : frames.find? (fun frame => structs.contains frame.struct) with
  | none =>
    refine ⟨none, .nowhere fun frame h => ?_⟩
    simpa using List.find?_eq_none.mp found frame h
  | some frame =>
    obtain ⟨here, inner, outer, rfl, skipped⟩ := List.find?_eq_some_iff_append.mp found
    have others : ∀ frame ∈ inner, frame.struct ∉ structs :=
      fun frame h => by simpa using skipped frame h
    have here : frame.struct ∈ structs := by simpa using here
    cases entry : frame.lengths.find? (fun entry => decide (entry.1 = member)) with
    | none =>
      refine ⟨none, .missing others here fun entry' h => ?_⟩
      simpa using List.find?_eq_none.mp entry entry' h
    | some entry' =>
      obtain ⟨same, before, behind, lengths, skipped'⟩ := List.find?_eq_some_iff_append.mp entry
      obtain ⟨name, length⟩ := entry'
      obtain rfl : name = member := by simpa using same
      exact ⟨some length, .recorded others here lengths fun entry h => by
        simpa using skipped' entry h⟩

theorem arrayLength?_eq_iff :
    stack.arrayLength? structs member = result ↔ Finds structs member stack.frames result := by
  refine ⟨?_, Finds.arrayLength?_eq⟩
  rintro rfl
  obtain ⟨result, finds⟩ := exists_finds structs member stack.frames
  exact finds.arrayLength?_eq ▸ finds

/-- A stack that is the given list of frames: its arena is as long as its positions, which are all
there are, its frames are those of the list, and lookups are answered from the list. -/
structure Represents (stack : ContainmentStack) (frames : List Frame) : Prop where
  length_arena : stack.arena.length = stack.positions.length
  positions_eq : stack.positions = List.range stack.depth
  depth_eq : stack.depth = frames.length
  frames_eq : stack.frames = frames
  arrayLength?_eq_iff : ∀ (structs : List String) (member : String) (result : Option Nat),
    stack.arrayLength? structs member = result ↔ Finds structs member frames result

theorem represents_holding (frames : List Frame) : (holding {} frames).Represents frames where
  length_arena := by
    rw [arena_holding, positions_holding, List.length_reverse, List.length_range]
  positions_eq := by
    rw [depth, positions_holding, List.length_range]
  depth_eq := by
    rw [depth, positions_holding, List.length_range]
  frames_eq := frames_holding frames
  arrayLength?_eq_iff := by
    intro structs member result
    rw [ContainmentStack.arrayLength?_eq_iff, frames_holding]

/-- After every run of moves from nothing that leaves only what it has entered, the stack is the
list of the frames that are open. Entering one more struct and leaving it again, with any moves in
between that close what they open, gives the same stack. -/
theorem run_represents {moves : List Move} {frames : List Frame}
    (nested : Move.open? moves = some frames) :
    (run {} moves).Represents frames ∧
      ∀ (frame : Frame) (inside : List Move), Move.open? inside = some [] →
        run {} (moves ++ .enter frame :: inside ++ [.leave]) = run {} moves := by
  have held : run {} moves = holding {} frames := run_holding nested
  refine ⟨held ▸ represents_holding frames, ?_⟩
  intro frame inside closed
  have around : run {} (moves ++ .enter frame :: inside ++ [.leave]) =
      ((((run {} moves).enter frame).run inside).leave) := by
    simp [run, move]
  rw [around, run_closed closed, leave_enter]

/-- A model with four nodes. -/
def outerModel : Frame := ⟨"Model", [("nodes", 4), ("regions", 1)]⟩

/-- A model with two entries for its nodes and none for regions. -/
def innerModel : Frame := ⟨"Model", [("nodes", 2), ("nodes", 3)]⟩

/-- Into a model inside a model, and into one of its nodes and out again. -/
def modelMoves : List Move :=
  [.enter outerModel, .enter innerModel, .enter ⟨"ModelNode", []⟩, .leave]

theorem run_represents_models :
    Move.open? modelMoves = some [innerModel, outerModel] ∧
      (run {} modelMoves).frames = [innerModel, outerModel] ∧
      (run {} modelMoves).arrayLength? ["Model"] "nodes" = some 2 ∧
      (run {} modelMoves).arrayLength? ["Model"] "regions" = none ∧
      run {} (modelMoves ++ [.enter outerModel, .enter innerModel, .leave, .leave]) =
        run {} modelMoves := by
  have nested : Move.open? modelMoves = some [innerModel, outerModel] := rfl
  obtain ⟨represents, closes⟩ := run_represents nested
  refine ⟨nested, represents.frames_eq, ?_, ?_, closes outerModel [.enter innerModel, .leave] rfl⟩
  · rw [represents.arrayLength?_eq_iff]
    exact @Finds.recorded ["Model"] "nodes" [] [outerModel] innerModel [] [("nodes", 3)] 2
      (by simp) (by decide) rfl (by simp)
  · rw [represents.arrayLength?_eq_iff]
    exact @Finds.missing ["Model"] "regions" [] [outerModel] innerModel (by simp) (by decide)
      (by decide)

end ContainmentStack

end TagSchema
