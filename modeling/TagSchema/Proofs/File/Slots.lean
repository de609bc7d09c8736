import TagSchema.Proofs.File.RoundTrip

/-!
# Writing fills a slot and appends

What is written of a value is a head, as long as the slot of its struct, and a tail. Neither depends
on the buffer or on where the slot lies: nested arrays reserve the slots of their elements behind
all that was written before (`Members.outcome_writeFile`), so filling them touches nothing else. The
only failure is a slot that does not lie in the buffer, and it leaves the buffer alone.
-/

namespace TagSchema

/-- A layout does not fit into a slot that ends outside the buffer. -/
theorem Buffer.outcome_writeFixed_short (layout : Layout) (value : layout.Value) {position : Nat}
    {out : Bytes} (h : out.length < position + layout.size) :
    outcome (writeFixed layout value position) out =
      (.error (.outOfBounds (.noRoom layout.size position)), out) := by
  unfold writeFixed
  rw [outcome_bind_ok (outcome_get out), if_pos h]
  rfl

namespace StructType

variable {type : StructType} {value : type.Value}

/-- What goes into the slot of a value. -/
def head (type : StructType) (value : type.Value) : Bytes :=
  (type.layout .file).encode (type.members.fileHead value)

/-- What is appended for a value. -/
def tail (type : StructType) (value : type.Value) : Bytes := type.members.fileTail value

theorem length_head (type : StructType) (value : type.Value) :
    (type.head value).length = type.size .file :=
  (type.layout .file).length_encode _

theorem outcome_writeFile_short (h : type.members.Fits value) {position : Nat} {out : Bytes}
    (short : out.length < position + type.size .file) :
    outcome (type.writeFile position value) out =
      (.error (.outOfBounds (.noRoom (type.size .file) position)), out) := by
  unfold writeFile
  rw [type.members.storeFile_eq h]
  exact (outcome_bind_ok (outcome_liftM _ out)).trans
    (outcome_bind_error (Buffer.outcome_writeFixed_short _ _ short))

/-- Writing a value, anywhere in any buffer, fills a slot of the size of the struct with one byte
string and appends another, and it is refused where there is no such slot. -/
structure Writes (type : StructType) (value : type.Value) (head tail : Bytes) : Prop where
  length_head : head.length = type.size .file
  succeeds_iff : ∀ position out, (outcome (type.writeFile position value) out).1 = .ok () ↔
    position + type.size .file ≤ out.length
  filled : ∀ position out, position + type.size .file ≤ out.length →
    outcome (type.writeFile position value) out =
      (.ok (), out.take position ++ head ++ out.drop (position + type.size .file) ++ tail)
  refused : ∀ position out, out.length < position + type.size .file →
    outcome (type.writeFile position value) out =
      (.error (.outOfBounds (.noRoom (type.size .file) position)), out)

theorem writes (h : type.members.Fits value) : type.Writes value (type.head value) (type.tail value)
    where
  length_head := type.length_head value
  succeeds_iff := by
    intro position out
    by_cases room : position + type.size .file ≤ out.length
    · rw [type.outcome_writeFile h position out room]
      exact iff_of_true rfl room
    · rw [outcome_writeFile_short h (Nat.not_le.mp room)]
      exact iff_of_false nofun room
  filled := by
    intro position out room
    have slot : out.overwrite position (type.head value) =
        out.take position ++ type.head value ++ out.drop (position + type.size .file) := by
      rw [Bytes.overwrite, type.length_head]
    rw [← slot]
    exact type.outcome_writeFile h position out room
  refused := fun _ _ => outcome_writeFile_short h

end StructType

/-- **What is written of a value is a head and a tail.** For every struct type, the types of the
catalog among them, the head of a value whose lengths fit goes into its slot, and the tail is
appended. Both depend on the value alone. An array appends the heads of its elements and then their
tails, each in order. -/
theorem writes_head_and_tail (type : StructType) :
    (∀ value, type.members.Fits value → type.Writes value (type.head value) (type.tail value)) ∧
    ∀ (site : Site) (values : List type.Value), (∀ value ∈ values, type.members.Fits value) →
      ∀ out, outcome (Buffer.writeArray site (type.size .file) type.writeFile values) out =
        (.ok (), out ++ values.flatMap type.head ++ values.flatMap type.tail) := by
  refine ⟨fun value fits => StructType.writes fits, ?_⟩
  intro site values fits out
  rw [List.append_assoc]
  refine Buffer.outcome_writeArray type.head type.tail type.length_head values ?_ out
  intro value mem position out room
  exact type.outcome_writeFile (fits value mem) position out room

namespace Catalog

/-- The slot of a pistol: its flags, the classes of its references, one with the length of its path,
and the numbers of magazines and triggers. -/
def pistolHead : Bytes :=
  [0, 0, 255, 239] ++ Bytes.zeros 20 ++ [109, 111, 100, 101, 0, 0, 0, 0, 0, 0, 0, 14] ++
    List.replicate 8 255 ++ Bytes.zeros 8 ++ [115, 110, 100, 33] ++ Bytes.zeros 8 ++
    List.replicate 4 255 ++ Bytes.zeros 51 ++ [1] ++ Bytes.zeros 11 ++ [1] ++ Bytes.zeros 12

/-- What comes behind: the path and the byte that ends it, the magazine, which is zero, and the
trigger with its reference. -/
def pistolTail : Bytes :=
  Text.utf8 "weapons\\épée" ++ Bytes.zeros 29 ++ [111, 98, 106, 101] ++ Bytes.zeros 8 ++
    List.replicate 4 255 ++ Bytes.zeros 4

theorem pistol_parts : weapon.head pistol = pistolHead ∧ weapon.tail pistol = pistolTail := by
  decide +kernel

end Catalog

open Catalog in
/-- A pistol is written into a slot behind the first byte of a buffer, and not one byte further
back, and two of them are appended to three bytes. -/
theorem writes_head_and_tail_pistol :
    weapon.head pistol = pistolHead ∧ weapon.tail pistol = pistolTail ∧
    outcome (weapon.writeFile 1 pistol) (7 :: Bytes.zeros (weapon.size .file)) =
      (.ok (), 7 :: pistolHead ++ pistolTail) ∧
    outcome (weapon.writeFile 2 pistol) (7 :: Bytes.zeros (weapon.size .file)) =
      (.error (.outOfBounds (.noRoom (weapon.size .file) 2)),
        7 :: Bytes.zeros (weapon.size .file)) ∧
    ∀ site, outcome (Buffer.writeArray site (weapon.size .file) weapon.writeFile [pistol, pistol])
        [1, 2, 3] =
      (.ok (), [1, 2, 3] ++ (pistolHead ++ pistolHead) ++ (pistolTail ++ pistolTail)) := by
  have fits := pistol_fits.1
  obtain ⟨head, tail⟩ := pistol_parts
  obtain ⟨one, many⟩ := writes_head_and_tail weapon
  have length : (7 :: Bytes.zeros (weapon.size .file)).length = 1 + weapon.size .file := by
    rw [List.length_cons, Bytes.length_zeros, Nat.add_comm]
  refine ⟨head, tail, ?_, (one _ fits).refused 2 _ (by omega), fun site => ?_⟩
  · rw [(one _ fits).filled 1 _ (Nat.le_of_eq length.symm), ← length, List.drop_length, head, tail]
    simp
  · have array := many site [pistol, pistol] (by simpa using fits) [1, 2, 3]
    simpa only [List.flatMap_cons, List.flatMap_nil, List.append_nil, head, tail] using array

end TagSchema
