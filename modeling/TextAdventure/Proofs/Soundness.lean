import TextAdventure.Proofs.Turn
import TextAdventure.Proofs.Use
import TextAdventure.World.Sample

/-!
# Sound sessions

A session is sound when its world is, the player stands in a room of the world, and what the player
carries refers to rooms of the world only. Play starts in such a session and never leaves them
(`Session.Sound.run`). So the rooms as they stand always describe a world again, and no command is
ever answered from a room that is not there (`Session.play_keeps_world_valid`).
-/

namespace TextAdventure

/-! ## What a change of a room leaves within the world -/

namespace Item.RefersWithin

theorem of_find? {l : ItemList} {name : String} {item : Item} {ids : List RoomId}
    (h : ∀ item ∈ l.toList, item.RefersWithin ids) (hf : l.find? name = some item) :
    item.RefersWithin ids :=
  h item (ItemList.mem_of_find? hf)

end Item.RefersWithin

namespace Room.RefersWithin

variable {room : Room} {ids : List RoomId}

theorem withItems (h : room.RefersWithin ids) {items : ItemList}
    (hi : ∀ item ∈ items.toList, item.RefersWithin ids) :
    ({ room with items } : Room).RefersWithin ids :=
  ⟨h.paths, hi⟩

theorem applyEffects (h : room.RefersWithin ids) (item : Item) :
    (room.applyEffects item.effects).2.RefersWithin ids := by
  rw [Room.applyEffects_room]
  refine ⟨fun entry he => ?_, fun i hi => h.items i ((Item.dropNamed_sublist _ _).subset hi)⟩
  obtain ⟨old, hold, rfl⟩ := List.mem_map.1 he
  exact h.paths old hold

end Room.RefersWithin

theorem World.ofDocument_sample : World.ofDocument .sample = .ok .sample :=
  World.ofDocument_eq_ok_iff.2 ⟨Document.fault?_eq_none_iff.1 Document.fault?_sample, rfl, rfl⟩

namespace Session

variable {s : Session}

/-! ## The invariant -/

/-- The world is sound and has all rooms that the player's state refers to. -/
structure Sound (s : Session) : Prop where
  world : s.world.Sound
  here : s.player.room ∈ s.world.ids
  carried : ∀ item ∈ s.player.inventory.toList, item.RefersWithin s.world.ids

namespace Sound

theorem start {w : World} (h : w.Sound) (aliases : AliasTable) : (start w aliases).Sound :=
  ⟨h, h.start, fun _ hi => absurd hi List.not_mem_nil⟩

theorem exists_room (h : s.Sound) : ∃ room, s.room? = some room :=
  World.mem_ids_iff.1 h.here

/-- Effects fire by the room's own id, which is the one under which the player stands. -/
theorem id_room (h : s.Sound) {room : Room} (hroom : s.room? = some room) :
    room.id = s.player.room :=
  h.world.id_eq hroom

/-- A change of the player's room keeps the session sound. -/
theorem changeRoom (h : s.Sound) {f : Room → Room}
    (hf : ∀ room, s.room? = some room → (f room).id = room.id ∧ (f room).RefersWithin s.world.ids)
    {inventory : ItemList} (hi : ∀ item ∈ inventory.toList, item.RefersWithin s.world.ids) :
    (s.change f inventory).Sound := by
  refine ⟨h.world.modifyRoom (fun room hr => (hf room hr).1) fun room hr => (hf room hr).2, ?_, ?_⟩
  · simpa [change] using h.here
  · simpa [change] using hi

theorem turn (h : s.Sound) {c : Command} {s' : Session} (ht : s.Turn c s') : s'.Sound := by
  cases ht with
  | @move direction room path hroom hpath hlock =>
    have htarget := (h.world.refers hroom).paths _ (Paths.get?_eq_some_iff.1 hpath)
    exact ⟨h.world, htarget, h.carried⟩
  | @pick name room item items hroom htake =>
    obtain ⟨hfind, rfl⟩ := ItemList.take?_eq_some_iff.1 htake
    have hitems := (h.world.refers hroom).items
    refine h.changeRoom ?_ fun i hi => ?_
    · intro old hold
      exact ⟨rfl, (h.world.refers hold).withItems fun i hi => hitems i (List.mem_of_mem_eraseP hi)⟩
    · rcases List.mem_append.1 hi with hi | hi
      · exact h.carried i hi
      · rw [List.mem_singleton.1 hi]
        exact Item.RefersWithin.of_find? hitems hfind
  | @put name room item inventory hroom htake =>
    obtain ⟨hfind, rfl⟩ := ItemList.take?_eq_some_iff.1 htake
    refine h.changeRoom ?_ fun i hi => h.carried i (List.mem_of_mem_eraseP hi)
    intro old hold
    refine ⟨rfl, (h.world.refers hold).withItems fun i hi => ?_⟩
    rcases List.mem_append.1 hi with hi | hi
    · exact (h.world.refers hold).items i hi
    · rw [List.mem_singleton.1 hi]
      exact Item.RefersWithin.of_find? h.carried hfind
  | @use name room item hroom hfind =>
    refine h.changeRoom ?_ h.carried
    intro old hold
    cases hroom.symm.trans hold
    refine ⟨?_, (h.world.refers hroom).applyEffects item⟩
    rw [Room.applyEffects_room]
  | idle _ => exact h

theorem next (h : s.Sound) (line : String) : (s.next line).Sound :=
  h.turn (turn_next s line)

theorem run (h : s.Sound) (lines : List String) : (s.run lines).Sound :=
  run_of_next (fun _ line hs => hs.next line) h lines

end Sound

/-- Play in the world of a document. -/
theorem sound_play {d : Document} {w : World} (h : World.ofDocument d = .ok w)
    (aliases : AliasTable) (lines : List String) : ((start w aliases).run lines).Sound :=
  (Sound.start (World.Sound.of_ofDocument h) aliases).run lines

/-! ## Answers for a missing room -/

/-- The answer to the command comes from a branch for a room that the world lacks. -/
def FallsBack (s : Session) : Command → Prop
  | .look | .get _ | .drop _ => s.room? = none
  -- After a move the new room is described.
  | .go direction => s.room? = none ∨ (s.go direction).2.room? = none
  | .use name => (s.player.inventory.find? name).isSome ∧ s.room? = none
  | _ => False

theorem Sound.not_fallsBack (h : s.Sound) (c : Command) : ¬s.FallsBack c := by
  obtain ⟨room, hroom⟩ := h.exists_room
  cases c with
  | go direction =>
    obtain ⟨room', hroom'⟩ := (h.turn (turn_go s direction)).exists_room
    simp [FallsBack, hroom, hroom']
  | _ => simp [FallsBack, hroom]

/-- Such an answer ends in the text for a missing room. -/
theorem getLast?_execute_of_fallsBack {c : Command} (h : s.FallsBack c) :
    (s.execute c).1.lines.getLast? = some nowhere := by
  cases c with
  | look =>
    have hroom : s.room? = none := h
    simp [execute, look, hroom, Response.say]
  | go direction =>
    cases hroom : s.room? with
    | none => simp [execute, go, hroom, Response.say]
    | some room =>
      have hmoved := h.resolve_left (by simp [hroom])
      simp only [execute, go, hroom, Response.say] at hmoved ⊢
      split at hmoved
      · cases hroom.symm.trans hmoved
      · split at hmoved
        · cases hroom.symm.trans hmoved
        · simp_all [look]
  | get name =>
    have hroom : s.room? = none := h
    simp [execute, get, hroom, Response.say]
  | drop name =>
    have hroom : s.room? = none := h
    simp [execute, drop, hroom, Response.say]
  | use name =>
    obtain ⟨hcarried, hroom⟩ := h
    obtain ⟨item, hfind⟩ := Option.isSome_iff_exists.1 hcarried
    simp [execute, use, hfind, hroom, Response.say]
  | _ => exact h.elim

/-- Whatever the player types, the player stands in a room of the world, each room is kept under its
own id, the rooms as they stand make a world again, in any order, and what is carried refers to rooms
of the world only. No answer falls back on the text for a missing room. -/
theorem play_keeps_world_valid {d : Document} {w : World} (h : World.ofDocument d = .ok w)
    (aliases : AliasTable) (lines : List String) :
    let s := (start w aliases).run lines
    (∃ room, s.world.room? s.player.room = some room) ∧
      (∀ id room, s.world.room? id = some room → room.id = id) ∧
      World.ofDocument s.world.document = .ok s.world ∧
      (∀ rooms : List Room, rooms.Perm s.world.document.rooms →
        ∃ w', World.ofDocument ⟨s.world.startingRoom, rooms⟩ = .ok w' ∧
          ∀ id, w'.room? id = s.world.room? id) ∧
      (∀ item ∈ s.player.inventory.toList, ∀ e ∈ item.effectList, ∀ id, e.room = some id →
        ∃ room, s.world.room? id = some room) ∧
      ∀ c, ¬s.FallsBack c := by
  intro s
  have hs : s.Sound := sound_play h aliases lines
  refine ⟨hs.exists_room, fun _ _ => hs.world.id_eq, hs.world.ofDocument_document,
    fun _ => hs.world.ofDocument_perm, fun item hi e he id heq => ?_, hs.not_fallsBack⟩
  exact World.mem_ids_iff.1 (hs.carried item hi e he id heq)

theorem valid_after_opening_sample_door :
    World.ofDocument .sample = .ok .sample ∧
      World.ofDocument
          ((start .sample .standard).run ["get key", "use key", "n", "quit", "drop key"]).world.document =
        .ok ((start .sample .standard).run ["get key", "use key", "n", "quit", "drop key"]).world :=
  ⟨World.ofDocument_sample,
    (play_keeps_world_valid World.ofDocument_sample .standard
      ["get key", "use key", "n", "quit", "drop key"]).2.2.1⟩

end Session

end TextAdventure
