import TextAdventure.World

/-!
# World documents

A document lists the rooms of a world and names the room where play starts. It makes a world when
the ids are distinct and every id it refers to is the id of one of its rooms; otherwise
`Document.fault?` tells the first fault.
-/

namespace TextAdventure

structure Document where
  startingRoom : RoomId
  rooms : List Room
  deriving DecidableEq, Repr

namespace Document

/-- Why a document is not the description of a world. -/
inductive Fault
  | duplicateRoom (id : RoomId)
  | danglingPath (room : RoomId) (direction : String) (target : RoomId)
  | danglingEffectRoom (item key : String) (target : RoomId)
  | missingStartingRoom (id : RoomId)
  deriving DecidableEq, Repr

def Fault.message : Fault → String
  | duplicateRoom id => s!"room {id.text} is defined more than once"
  | danglingPath room direction target =>
    s!"path {direction} in room {room.text} leads to missing room {target.text}"
  | danglingEffectRoom item key target =>
    s!"use-effect {key} of item {item} refers to missing room {target.text}"
  | missingStartingRoom id => s!"starting room {id.text} does not exist"

/-! ## Looking for faults -/

/-- The first of `ids` that is in `seen` or among the ones before it. -/
def firstRepeated? (seen : List RoomId) : List RoomId → Option RoomId
  | [] => none
  | id :: ids => if id ∈ seen then some id else firstRepeated? (id :: seen) ids

theorem nodup_of_firstRepeated?_eq_none {seen ids : List RoomId}
    (h : firstRepeated? seen ids = none) : ids.Nodup ∧ ∀ id ∈ ids, id ∉ seen := by
  induction ids generalizing seen with
  | nil => simp
  | cons id ids ih =>
    unfold firstRepeated? at h
    split at h
    · cases h
    · obtain ⟨hn, hs⟩ := ih h
      grind

/-- The ids of the rooms, in order. -/
def ids (d : Document) : List RoomId :=
  d.rooms.map Room.id

/-- The first path of `room` that leads to none of the rooms `ids`. -/
def danglingPath? (ids : List RoomId) (room : Room) : Option Fault :=
  room.paths.entries.findSome? fun (direction, path) =>
    if path.target ∈ ids then none else some (.danglingPath room.id direction path.target)

/-- The first effect of `item` that belongs to a room, but to none of the rooms `ids`. -/
def danglingEffect? (ids : List RoomId) (item : Item) : Option Fault :=
  (item.effects.getD .empty).entries.findSome? fun (key, effect) =>
    effect.room.bind fun target =>
      if target ∈ ids then none else some (.danglingEffectRoom item.name key target)

/-- The first fault of a room: its paths come first, then its items with their effects. -/
def roomFault? (ids : List RoomId) (room : Room) : Option Fault :=
  danglingPath? ids room <|> room.items.toList.findSome? (danglingEffect? ids)

/-- The first fault: a repeated id, then what the rooms refer to, then the starting room. -/
def fault? (d : Document) : Option Fault :=
  let ids := d.ids
  (firstRepeated? [] ids).map .duplicateRoom
    <|> d.rooms.findSome? (roomFault? ids)
    <|> if d.startingRoom ∈ ids then none else some (.missingStartingRoom d.startingRoom)

theorem nodup_ids_of_fault?_eq_none {d : Document} (h : d.fault? = none) : d.ids.Nodup := by
  unfold fault? at h
  cases hr : firstRepeated? [] d.ids with
  | none => exact (nodup_of_firstRepeated?_eq_none hr).1
  | some id => simp [hr] at h

end Document

/-! ## From documents to worlds and back -/

namespace World

/-- The world of a faultless document: each room under its own id. -/
def ofFaultless (d : Document) (h : d.fault? = none) : World where
  startingRoom := d.startingRoom
  rooms := d.rooms.map fun room => (room.id, room)
  nodup := by
    rw [List.map_map]
    exact Document.nodup_ids_of_fault?_eq_none h

/-- The world of a document, or the document's first fault. -/
def ofDocument (d : Document) : Except Document.Fault World :=
  match h : d.fault? with
  | some fault => .error fault
  | none => .ok (ofFaultless d h)

/-- The document of the rooms as they stand. -/
def document (w : World) : Document :=
  ⟨w.startingRoom, w.rooms.map Prod.snd⟩

end World

end TextAdventure
