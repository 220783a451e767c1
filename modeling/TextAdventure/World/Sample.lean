import TextAdventure.World.Document

/-!
# The sample world

The world that is played when no other is given: four rooms, two locks, and the items that open
them.
-/

namespace TextAdventure

namespace Document

/-- A key opens the library; in the library a crowbar gives access to the attic. -/
def sample : Document where
  startingRoom := ⟨1, by decide, by decide⟩
  rooms :=
    [{ id := hall
       description := "You are in a dim entrance hall. A heavy door stands to the north."
       paths := .ofList [("north", ⟨library, true⟩), ("east", ⟨storeroom, false⟩)]
       items := ⟨
        [(Item.plain "key" "A small brass key.").withEffect "hallDoor"
          ⟨some hall, "north", .unlocks, "The key turns and the door to the north unlocks."⟩,
        .plain "rock" "An unremarkable grey rock."]⟩
       characters := [⟨"guard", "The library is north, if you can get the door open."⟩] },
     { id := library
       description := "Shelves of crumbling books line the walls of the library."
       paths := .ofList [("south", ⟨hall, false⟩), ("up", ⟨attic, true⟩)]
       items := ⟨[.plain "old crate" "A crate nailed shut."]⟩
       characters := [⟨"old librarian", "Shh. Mind the ladder."⟩] },
     { id := storeroom
       description := "A cramped storeroom smelling of oil."
       paths := .ofList [("west", ⟨hall, false⟩)]
       items := ⟨
        [((Item.plain "crowbar" "A sturdy iron crowbar.").withEffect "crate"
          ⟨some library, "old crate", .opens,
            "You pry the crate apart. It was hiding a ladder."⟩).withEffect "ladder"
          ⟨some library, "up", .unlocks, "The ladder leads up to a trapdoor."⟩]⟩
       characters := [] },
     { id := attic
       description := "A windy attic under the roof. Light streams through the cracks."
       paths := .ofList [("down", ⟨library, false⟩)]
       items := .empty
       characters := [] }]
where
  hall : RoomId := ⟨1, by decide, by decide⟩
  library : RoomId := ⟨2, by decide, by decide⟩
  storeroom : RoomId := ⟨3, by decide, by decide⟩
  attic : RoomId := ⟨4, by decide, by decide⟩

theorem fault?_sample : sample.fault? = none := by
  decide +kernel

end Document

def World.sample : World :=
  .ofFaultless .sample Document.fault?_sample

end TextAdventure
