import TextAdventure.Session
import TextAdventure.Proofs.Presentation

/-!
# Paths in any order

Paths may be given one after the other, several of them for the same direction. A room that gets them,
or is read from a text that lists them, has each direction once, in the order of octets, with the path
that was given last (`Room.Keeps`). So rooms whose paths differ only in the order in which they were
given, or in what was given earlier for the same direction, are the same room, with the same text and
the same look (`Room.paths_told_by_last_given`). Locking or unlocking a path comes to the same before
it is given and after (`Paths.modify_ofList`).
-/

namespace TextAdventure

open Json (Format Presentation Token)
open Text (Precedes)

variable {given given' : List (String × Path)} {direction : String} {path : Path}

namespace Paths

/-! ## What is given last -/

theorem get?_ofList_eq_some_iff :
    (ofList given).get? direction = some path ↔ LastGiven given direction path := by
  rw [get?_ofList]
  exact lookup_reverse_eq_some_iff

theorem get?_ofList_eq_none_iff :
    (ofList given).get? direction = none ↔ direction ∉ given.map Prod.fst := by
  rw [get?_ofList]
  exact lookup_reverse_eq_none_iff

theorem mem_directions_ofList :
    direction ∈ (ofList given).directions ↔ direction ∈ given.map Prod.fst :=
  not_iff_not.1 (lookup_eq_none_iff_notMem.symm.trans get?_ofList_eq_none_iff)

/-- Paths are told by what is given last for each direction. -/
theorem ofList_congr
    (h : ∀ direction path, LastGiven given direction path ↔ LastGiven given' direction path) :
    ofList given = ofList given' := by
  refine ext_get? fun direction => Option.ext fun path => ?_
  rw [get?_ofList_eq_some_iff, get?_ofList_eq_some_iff, h]

/-- A change of the path of one direction may as well be made in all that is given for it. -/
theorem modify_ofList (given : List (String × Path)) (direction : String) (f : Path → Path) :
    (ofList given).modify direction f =
      ofList (given.map fun entry =>
        if entry.1 = direction then (entry.1, f entry.2) else entry) := by
  refine ext_get? fun d => ?_
  rw [get?_modify, get?_ofList, get?_ofList, ← List.map_reverse, lookup_modify]

@[simp] theorem directions_modify (ps : Paths) (direction : String) (f : Path → Path) :
    (ps.modify direction f).directions = ps.directions := by
  unfold directions modify
  rw [List.map_map]
  refine List.map_congr_left fun entry _ => ?_
  simp only [Function.comp_apply]
  split <;> rfl

end Paths

namespace Room

/-! ## Rooms with the paths given -/

/-- The room with these paths, given one after the other, in place of its own. -/
def withPaths (room : Room) (given : List (String × Path)) : Room :=
  given.foldl (fun room entry => room.withPath entry.1 entry.2) { room with paths := .empty }

theorem foldl_withPath (given : List (String × Path)) (room : Room) (ps : Paths) :
    given.foldl (fun room entry => Room.withPath room entry.1 entry.2) { room with paths := ps } =
      { room with paths := given.foldl (fun ps entry => ps.insert entry.1 entry.2) ps } := by
  induction given generalizing ps with
  | nil => rfl
  | cons entry given ih => exact ih (ps.insert entry.1 entry.2)

theorem withPaths_eq (room : Room) (given : List (String × Path)) :
    room.withPaths given = { room with paths := .ofList given } :=
  foldl_withPath given room .empty

/-- Of the paths given, the room keeps the last one for each direction. The directions are in the
order of their octets. -/
structure Keeps (room : Room) (given : List (String × Path)) : Prop where
  ascending : room.directions.Pairwise Precedes
  once : room.directions.Nodup
  mem_directions : ∀ direction, direction ∈ room.directions ↔ direction ∈ given.map Prod.fst
  path : ∀ direction path,
    room.path? direction = some path ↔ LastGiven given direction path
  no_path : ∀ direction, room.path? direction = none ↔ direction ∉ given.map Prod.fst

theorem keeps_withPaths (room : Room) (given : List (String × Path)) :
    (room.withPaths given).Keeps given := by
  rw [withPaths_eq]
  exact
    { ascending := (Paths.ofList given).ascending
      once := (Paths.ofList given).nodup
      mem_directions := fun _ => Paths.mem_directions_ofList
      path := fun _ _ => Paths.get?_ofList_eq_some_iff
      no_path := fun _ => Paths.get?_ofList_eq_none_iff }

theorem withPaths_congr (room : Room)
    (h : ∀ direction path, LastGiven given direction path ↔
      LastGiven given' direction path) : room.withPaths given = room.withPaths given' := by
  rw [withPaths_eq, withPaths_eq, Paths.ofList_congr h]

/-! ## Texts that list the paths -/

/-- The text shows the room with these paths, and lists them in their order. -/
def ListedIn (room : Room) (given : List (String × Path)) (text : String) : Prop :=
  ∃ ts, shownWith (fun _ => Presentation.entries Path.shown given) (room.withPaths given) ts ∧
    Token.Layout ts text.toList

/-- The members need not be the entries of any paths, since a direction may come up again. -/
theorem accepts_given (given : List (String × Path)) :
    Paths.format.Accepts (fun _ => Presentation.entries Path.shown given)
      fun ps => ps = .ofList given := by
  rintro _ rfl ts hshown
  exact (Path.accepts_format.entries "a map" given (fun _ _ => trivial) ts hshown).map

theorem parse_of_listedIn {room : Room} {text : String} (hroom : room.Proper)
    (h : room.ListedIn given text) : format.parse text = .ok (room.withPaths given) := by
  obtain ⟨ts, hshown, hlayout⟩ := h
  rw [withPaths_eq] at hshown ⊢
  have proper : Room.Proper { room with paths := .ofList given } := hroom
  exact (accepts_shownWith (accepts_given given) _ ⟨proper, rfl⟩ ts hshown).parse_eq hlayout

/-! ## The ways out of a room -/

/-- The ways out stand at the end of what the player sees, in the order of the directions. -/
theorem describe_eq (room : Room) :
    Session.describe room = Session.describe { room with paths := .empty } ++
      room.directions.map fun direction => s!"You can go {direction}." := by
  simp only [Session.describe, List.cons_append, List.append_assoc]
  simp [Room.directions, Paths.directions, Paths.empty]

theorem look_eq {s : Session} {room : Room} (h : s.room? = some room) :
    s.look = Session.describe room := by
  rw [Session.look, h]

theorem path?_setLocked (room : Room) (direction d : String) (locked : Bool) :
    (room.setLocked direction locked).path? d =
      if d = direction then (room.path? d).map fun path => { path with locked }
      else room.path? d :=
  Paths.get?_modify room.paths direction d _

/-- The entries with the paths of a direction locked or unlocked. -/
def relocked (given : List (String × Path)) (direction : String) (locked : Bool) :
    List (String × Path) :=
  given.map fun entry =>
    if entry.1 = direction then (entry.1, { entry.2 with locked }) else entry

theorem setLocked_withPaths (room : Room) (given : List (String × Path)) (direction : String)
    (locked : Bool) :
    (room.withPaths given).setLocked direction locked =
      room.withPaths (relocked given direction locked) := by
  rw [withPaths_eq, withPaths_eq, setLocked, Paths.modify_ofList]
  rfl

/-- Whether paths are added to a room one after the other or listed in its text, the room keeps each
direction once, in ascending order, with the path given last. Two lists with the same last paths make
the same room, with the same text and the same look. To look shows the ways out in the order of the
directions, after everything else. Locking or unlocking a path leaves the directions and the other
paths as they are, and makes the room that it would be, had the path been given so. -/
theorem paths_told_by_last_given :
    (∀ (room : Room) (given : List (String × Path)),
      (room.withPaths given).Keeps given ∧
        (room.Proper → ∀ text, room.ListedIn given text →
          format.parse text = .ok (room.withPaths given)) ∧
        ∀ direction locked, (room.withPaths given).setLocked direction locked =
          room.withPaths (relocked given direction locked)) ∧
      (∀ (room : Room) (given given' : List (String × Path)),
        (∀ direction path, LastGiven given direction path ↔
          LastGiven given' direction path) →
        room.withPaths given = room.withPaths given' ∧
          format.print (room.withPaths given) = format.print (room.withPaths given') ∧
          ∀ s s' : Session, s.room? = some (room.withPaths given) →
            s'.room? = some (room.withPaths given') → s.look = s'.look) ∧
      (∀ (s : Session) (room : Room), s.room? = some room →
        s.look = Session.describe { room with paths := .empty } ++
            room.directions.map (fun direction => s!"You can go {direction}.") ∧
          room.directions.Pairwise Precedes) ∧
      ∀ (room : Room) direction locked,
        (room.setLocked direction locked).directions = room.directions ∧
          ∀ d, (room.setLocked direction locked).path? d =
            if d = direction then (room.path? d).map fun path => { path with locked }
            else room.path? d := by
  refine ⟨fun room given => ⟨keeps_withPaths room given, fun hroom _ h => parse_of_listedIn hroom h,
      setLocked_withPaths room given⟩,
    fun room given given' h => ?_, fun s room h => ?_, fun room direction locked =>
      ⟨Paths.directions_modify room.paths direction _,
        fun d => path?_setLocked room direction d locked⟩⟩
  · have same : room.withPaths given = room.withPaths given' := withPaths_congr room h
    refine ⟨same, congrArg format.print same, fun s s' hs hs' => ?_⟩
    rw [look_eq hs, look_eq hs', same]
  · exact ⟨(look_eq h).trans (describe_eq room), room.paths.ascending⟩

/-- A way up that is given once more after a way down, the first time locked: it is as if it had been
given once. In the text each token is on a line of its own. -/
theorem up_given_twice :
    let here : RoomId := { val := 1 }
    let hall := Room.bare here "Hall"
    let given : List (String × Path) :=
      [("up", ⟨here, true⟩), ("down", ⟨here, false⟩), ("up", ⟨here, false⟩)]
    let given' : List (String × Path) := [("up", ⟨here, false⟩), ("down", ⟨here, false⟩)]
    let members := given.map fun entry => (entry.1, Path.format.write entry.2)
    let object := Json.Format.object [("id", RoomId.format.write here),
      ("description", Format.string.write "Hall"), ("paths", Json.Format.object members)]
    let text := String.ofList (object.flatMap fun t => '\n' :: t.text)
    let s (given : List (String × Path)) : Session :=
      ⟨⟨here, [(here, hall.withPaths given)], by simp⟩, .start here, .standard⟩
    (hall.Proper ∧ hall.ListedIn given text ∧ format.parse text = .ok (hall.withPaths given)) ∧
      (∀ direction path, LastGiven given direction path ↔
        LastGiven given' direction path) ∧
      hall.withPaths given = hall.withPaths given' ∧
      ((s given).room? = some (hall.withPaths given) ∧
        (s given').room? = some (hall.withPaths given') ∧ (s given).look = (s given').look) ∧
      (s given).look = ["Hall"] ++ ["You can go down.", "You can go up."] := by
  intro here hall given given' members object text s
  obtain ⟨built, told, looked, -⟩ := paths_told_by_last_given
  have proper : hall.Proper := fun item hitem => absurd hitem List.not_mem_nil
  have listed : hall.ListedIn given text := by
    have line : Token.Gap ['\n'] := by simp [Token.Gap]
    obtain ⟨hpaths, spelled⟩ := (Path.shows_format.entries "a map") given
    have parts : here.shown (RoomId.format.write here) ∧
        Presentation.string "Hall" (Format.string.write "Hall") ∧
        Presentation.entries Path.shown given (Json.Format.object members) := ⟨rfl, rfl, hpaths⟩
    have shown : shownWith (fun _ => Presentation.entries Path.shown given)
        (hall.withPaths given) object := by
      rw [withPaths_eq]
      exact .object (by simpa [hall, bare] using parts) (by simp [hall, bare]) (by simp) (by simp)
    refine ⟨object, shown, ?_⟩
    rw [String.toList_ofList]
    refine Token.layout_flatMap line (Format.spelled_object ?_)
    simp only [List.forall_mem_cons]
    exact ⟨(RoomId.shows_format here).2, (Format.shows_string "Hall").2, spelled, by simp⟩
  have last : ∀ direction path, LastGiven given direction path ↔
      LastGiven given' direction path := fun direction path => by
    have same : Paths.ofList given = .ofList given' := by decide +kernel
    rw [← Paths.get?_ofList_eq_some_iff, same, Paths.get?_ofList_eq_some_iff]
  obtain ⟨same, -, look⟩ := told hall given given' last
  have room : (s given).room? = some (hall.withPaths given) := rfl
  have room' : (s given').room? = some (hall.withPaths given') := rfl
  exact ⟨⟨proper, listed, (built hall given).2.1 proper text listed⟩, last, same,
    ⟨room, room', look _ _ room room'⟩, (looked _ _ room).1.trans (by decide +kernel)⟩

end Room

end TextAdventure
