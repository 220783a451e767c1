import TextAdventure.Room

/-!
# Worlds and players

A world keeps its rooms under distinct ids and says where play starts. A player stands in a room
and carries items.
-/

namespace TextAdventure

/-- Rooms under distinct ids, and the id of the room where play starts. -/
structure World where
  startingRoom : RoomId
  rooms : List (RoomId × Room)
  nodup : (rooms.map Prod.fst).Nodup
  deriving DecidableEq, Repr

namespace World

def room? (w : World) (id : RoomId) : Option Room :=
  w.rooms.lookup id

def size (w : World) : Nat :=
  w.rooms.length

/-- The world with the room under `id`, if there is one, changed by `f`. -/
def modifyRoom (w : World) (id : RoomId) (f : Room → Room) : World where
  startingRoom := w.startingRoom
  rooms := w.rooms.map fun entry => if entry.1 = id then (entry.1, f entry.2) else entry
  nodup := by
    have keys : (Prod.fst ∘ fun entry : RoomId × Room =>
        if entry.1 = id then (entry.1, f entry.2) else entry) = Prod.fst := by
      funext entry
      simp only [Function.comp_apply]
      split <;> rfl
    rw [List.map_map, keys]
    exact w.nodup

end World

/-- Where the player stands and what the player carries. -/
structure Player where
  room : RoomId
  inventory : ItemList
  deriving DecidableEq, Repr

/-- A player who has just entered `room` and carries nothing. -/
def Player.start (room : RoomId) : Player :=
  ⟨room, .empty⟩

end TextAdventure
