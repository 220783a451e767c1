/-!
# Room ids

A room is known by a whole number of the signed 64-bit range.
-/

namespace TextAdventure

/-- The number a room is known by. -/
structure RoomId where
  val : Int
  lower : -0x8000_0000_0000_0000 ≤ val := by decide
  upper : val < 0x8000_0000_0000_0000 := by decide
  deriving DecidableEq, Repr

namespace RoomId

/-- The id with the given number, if that number is in range. -/
def ofInt? (n : Int) : Option RoomId :=
  if h : -0x8000_0000_0000_0000 ≤ n ∧ n < 0x8000_0000_0000_0000 then some ⟨n, h.1, h.2⟩ else none

theorem ofInt?_val (id : RoomId) : ofInt? id.val = some id :=
  dif_pos ⟨id.lower, id.upper⟩

theorem val_of_ofInt? {n : Int} {id : RoomId} (h : ofInt? n = some id) : id.val = n := by
  unfold ofInt? at h
  split at h
  · cases h; rfl
  · cases h

/-- The id in decimal, with a minus sign in front of a negative one. -/
def text (id : RoomId) : String :=
  toString id.val

end RoomId

end TextAdventure
