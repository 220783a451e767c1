import TextAdventure.Item
import TextAdventure.Text.Octets

/-!
# Rooms

A room has one-way paths, at most one for each direction, and holds items and characters. The paths
stand in the order of their directions' octets, whatever order they were given in.
-/

namespace TextAdventure

open Text (Precedes)

/-- A way out of a room. -/
structure Path where
  target : RoomId
  locked : Bool
  deriving DecidableEq, Repr

/-- Fixed scenery with one line to say. -/
structure Character where
  name : String
  dialogue : String
  deriving DecidableEq, Repr

/-! ## Paths by direction -/

/-- Paths by direction, the directions strictly ascending. -/
structure Paths where
  entries : List (String × Path)
  ascending : (entries.map Prod.fst).Pairwise Precedes
  deriving DecidableEq, Repr

namespace Paths

/-- Puts `path` before the first direction that `direction` precedes, or in place of its own. -/
def put (direction : String) (path : Path) : List (String × Path) → List (String × Path)
  | [] => [(direction, path)]
  | entry :: rest =>
    if entry.1 = direction then (direction, path) :: rest
    else if Precedes direction entry.1 then (direction, path) :: entry :: rest
    else entry :: put direction path rest

theorem mem_keys_put {direction d : String} {path : Path} {entries : List (String × Path)}
    (h : d ∈ (put direction path entries).map Prod.fst) :
    d = direction ∨ d ∈ entries.map Prod.fst := by
  induction entries with
  | nil => exact .inl (List.mem_singleton.1 h)
  | cons entry rest ih =>
    unfold put at h
    grind

theorem ascending_put (direction : String) (path : Path) {entries : List (String × Path)}
    (h : (entries.map Prod.fst).Pairwise Precedes) :
    ((put direction path entries).map Prod.fst).Pairwise Precedes := by
  induction entries with
  | nil => exact List.pairwise_singleton _ _
  | cons entry rest ih =>
    rw [List.map_cons, List.pairwise_cons] at h
    unfold put
    split
    · rename_i heq
      rw [List.map_cons, List.pairwise_cons]
      exact ⟨fun d hd => heq ▸ h.1 d hd, h.2⟩
    · split
      · rename_i hlt
        rw [List.map_cons, List.map_cons, List.pairwise_cons, List.pairwise_cons]
        refine ⟨fun d hd => ?_, h⟩
        rcases List.mem_cons.1 hd with rfl | hd
        · exact hlt
        · exact hlt.trans (h.1 d hd)
      · rename_i hne hlt
        rw [List.map_cons, List.pairwise_cons]
        refine ⟨fun d hd => ?_, ih h.2⟩
        rcases mem_keys_put hd with rfl | hd
        · exact (Text.precedes_or_precedes hne).resolve_right hlt
        · exact h.1 d hd

def empty : Paths :=
  ⟨[], List.Pairwise.nil⟩

instance : Inhabited Paths := ⟨empty⟩

/-- A direction already present takes the new path. -/
def insert (ps : Paths) (direction : String) (path : Path) : Paths :=
  ⟨put direction path ps.entries, ascending_put direction path ps.ascending⟩

/-- The paths given one after the other. -/
def ofList (entries : List (String × Path)) : Paths :=
  entries.foldl (fun ps entry => ps.insert entry.1 entry.2) empty

def get? (ps : Paths) (direction : String) : Option Path :=
  ps.entries.lookup direction

/-- The paths with the one of `direction`, if there is one, changed by `f`. -/
def modify (ps : Paths) (direction : String) (f : Path → Path) : Paths :=
  ⟨ps.entries.map fun entry => if entry.1 = direction then (entry.1, f entry.2) else entry, by
    have keys : (Prod.fst ∘ fun entry : String × Path =>
        if entry.1 = direction then (entry.1, f entry.2) else entry) = Prod.fst := by
      funext entry
      simp only [Function.comp_apply]
      split <;> rfl
    rw [List.map_map, keys]
    exact ps.ascending⟩

def directions (ps : Paths) : List String :=
  ps.entries.map Prod.fst

def size (ps : Paths) : Nat :=
  ps.entries.length

end Paths

/-! ## Rooms -/

/-- A place the player can stand in. -/
structure Room where
  id : RoomId
  description : String
  paths : Paths
  items : ItemList
  characters : List Character
  deriving DecidableEq, Repr

namespace Room

/-- A room without paths, items and characters. -/
def bare (id : RoomId) (description : String) : Room :=
  ⟨id, description, .empty, .empty, []⟩

def withPath (room : Room) (direction : String) (path : Path) : Room :=
  { room with paths := room.paths.insert direction path }

def withItem (room : Room) (item : Item) : Room :=
  { room with items := room.items.push item }

def withCharacter (room : Room) (character : Character) : Room :=
  { room with characters := room.characters ++ [character] }

def path? (room : Room) (direction : String) : Option Path :=
  room.paths.get? direction

/-- The room with the path in `direction`, if there is one, locked or unlocked. -/
def setLocked (room : Room) (direction : String) (locked : Bool) : Room :=
  { room with paths := room.paths.modify direction fun path => { path with locked } }

/-- The first character with this name. -/
def character? (room : Room) (name : String) : Option Character :=
  room.characters.find? (·.name = name)

/-- The directions of the room's paths, ascending. -/
def directions (room : Room) : List String :=
  room.paths.directions

end Room

end TextAdventure
