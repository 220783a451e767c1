import TextAdventure.Proofs.Frame
import TextAdventure.Proofs.Loop

/-!
# A turn depends on the surroundings only

What a turn shows, what it does to the player and what it leaves in the player's room depend on that
room and on the rooms that can be entered from it at once, and on nothing else in the world
(`Session.turn_depends_on_surroundings`). So over whole plays nothing matters that no path leads to
(`Session.play_depends_on_what_paths_reach`).
-/

namespace TextAdventure

namespace Session

variable {p : RoomId → Prop} {s₁ s₂ : Session}

/-- The room the player stands in, or one that it has an unlocked path to. -/
def Near (s : Session) (id : RoomId) : Prop :=
  id = s.player.room ∨ ∃ direction path, s.pathAt? s.player.room direction = some path ∧
    path.locked = false ∧ path.target = id

/-- The sessions have the same player and the same aliases, and the same rooms under the ids that
satisfy `p`, or none. -/
structure AgreeOn (p : RoomId → Prop) (s₁ s₂ : Session) : Prop where
  aliases : s₂.aliases = s₁.aliases
  player : s₂.player = s₁.player
  rooms : ∀ id, p id → s₂.world.room? id = s₁.world.room? id

namespace AgreeOn

theorem room?_eq (h : AgreeOn p s₁ s₂) (hhere : p s₁.player.room) : s₂.room? = s₁.room? := by
  rw [room?, room?, h.player, h.rooms _ hhere]

theorem withPlayer (h : AgreeOn p s₁ s₂) (player : Player) :
    AgreeOn p { s₁ with player } { s₂ with player } :=
  ⟨h.aliases, rfl, h.rooms⟩

/-- Changing the player's room in the same way keeps the agreement. -/
theorem modifyRoom (h : AgreeOn p s₁ s₂) (f : Room → Room) :
    AgreeOn p (s₁.modifyRoom f) (s₂.modifyRoom f) := by
  refine ⟨h.aliases, h.player, fun id hid => ?_⟩
  simp only [Session.modifyRoom, World.room?_modifyRoom, h.player, h.rooms id hid]

/-! ### Verbs -/

theorem look_eq (h : AgreeOn p s₁ s₂) (hhere : p s₁.player.room) : s₂.look = s₁.look := by
  rw [look, look, h.room?_eq hhere]

theorem go (h : AgreeOn p s₁ s₂) (hnear : ∀ id, s₁.Near id → p id) (direction : String) :
    (s₂.go direction).1 = (s₁.go direction).1 ∧
      AgreeOn p (s₁.go direction).2 (s₂.go direction).2 := by
  have hroom := h.room?_eq (hnear _ (.inl rfl))
  unfold Session.go
  rw [hroom, h.player]
  cases hr : s₁.room? with
  | none => exact ⟨rfl, h⟩
  | some room =>
    dsimp only
    cases hp : room.path? direction with
    | none => exact ⟨rfl, h⟩
    | some path =>
      dsimp only
      cases hlock : path.locked with
      | true => exact ⟨rfl, h⟩
      | false =>
        -- The answer shows the room that is entered, so the worlds have to agree on it too.
        have htarget : p path.target :=
          hnear _ (.inr ⟨direction, path, (pathAt?_here hr).trans hp, hlock, rfl⟩)
        have hmoved := h.withPlayer { s₁.player with room := path.target }
        simp only [Bool.false_eq_true, if_false]
        exact ⟨congrArg _ (hmoved.look_eq htarget), hmoved⟩

theorem get (h : AgreeOn p s₁ s₂) (hhere : p s₁.player.room) (name : String) :
    (s₂.get name).1 = (s₁.get name).1 ∧ AgreeOn p (s₁.get name).2 (s₂.get name).2 := by
  unfold Session.get
  rw [h.room?_eq hhere, h.player]
  cases s₁.room? with
  | none => exact ⟨rfl, h⟩
  | some room =>
    dsimp only
    cases room.items.take? name with
    | none => exact ⟨rfl, h⟩
    | some taken => exact ⟨rfl, (h.modifyRoom _).withPlayer _⟩

theorem drop (h : AgreeOn p s₁ s₂) (hhere : p s₁.player.room) (name : String) :
    (s₂.drop name).1 = (s₁.drop name).1 ∧ AgreeOn p (s₁.drop name).2 (s₂.drop name).2 := by
  unfold Session.drop
  rw [h.room?_eq hhere, h.player]
  cases s₁.room? with
  | none => exact ⟨rfl, h⟩
  | some room =>
    dsimp only
    cases s₁.player.inventory.take? name with
    | none => exact ⟨rfl, h⟩
    | some taken => exact ⟨rfl, (h.modifyRoom _).withPlayer _⟩

theorem use (h : AgreeOn p s₁ s₂) (hhere : p s₁.player.room) (name : String) :
    (s₂.use name).1 = (s₁.use name).1 ∧ AgreeOn p (s₁.use name).2 (s₂.use name).2 := by
  unfold Session.use
  rw [h.room?_eq hhere, h.player]
  cases s₁.player.inventory.find? name with
  | none => exact ⟨rfl, h⟩
  | some item =>
    dsimp only
    cases s₁.room? with
    | none => exact ⟨rfl, h⟩
    | some room => exact ⟨rfl, h.modifyRoom _⟩

/-! ### Turns -/

/-- If the sessions agree on the player's room and on those near it, a command is answered in the
same way in both, and they agree on the same rooms as before. -/
theorem execute (h : AgreeOn p s₁ s₂) (hnear : ∀ id, s₁.Near id → p id) (c : Command) :
    (s₂.execute c).1 = (s₁.execute c).1 ∧ AgreeOn p (s₁.execute c).2 (s₂.execute c).2 := by
  have hhere := hnear _ (.inl rfl)
  cases c with
  | look => exact ⟨congrArg Response.say (h.look_eq hhere), h⟩
  | inventory =>
    have hinventory : s₂.inventory = s₁.inventory := by
      rw [Session.inventory, Session.inventory, h.player]
    exact ⟨congrArg Response.say hinventory, h⟩
  | go direction => exact (h.go hnear direction).imp_left (congrArg Response.say)
  | get name => exact (h.get hhere name).imp_left fun heq => congrArg (Response.say [·]) heq
  | drop name => exact (h.drop hhere name).imp_left fun heq => congrArg (Response.say [·]) heq
  | use name => exact (h.use hhere name).imp_left (congrArg Response.say)
  | talkTo name =>
    have htalk : s₂.talkTo name = s₁.talkTo name := by
      rw [Session.talkTo, Session.talkTo, h.room?_eq hhere]
    exact ⟨congrArg (Response.say [·]) htalk, h⟩
  | empty | quit | incomplete | unknown => exact ⟨rfl, h⟩

theorem handle (h : AgreeOn p s₁ s₂) (hnear : ∀ id, s₁.Near id → p id) (line : String) :
    (s₂.handle line).1 = (s₁.handle line).1 ∧ AgreeOn p (s₁.next line) (s₂.next line) := by
  unfold next Session.handle
  rw [h.aliases]
  exact h.execute hnear _

end AgreeOn

/-- Two sessions with the same player and aliases, whose worlds agree on the player's room and on
the rooms that it has unlocked paths to, answer a line in the same way. They then have the same
player again, and the room in which the turn began is the same in both. -/
theorem turn_depends_on_surroundings (h : AgreeOn s₁.Near s₁ s₂) (line : String) :
    (s₂.handle line).1 = (s₁.handle line).1 ∧
      (s₂.handle line).2.player = (s₁.handle line).2.player ∧
        (s₂.handle line).2.world.room? s₁.player.room =
          (s₁.handle line).2.world.room? s₁.player.room := by
  obtain ⟨hanswer, hafter⟩ := h.handle (fun _ hid => hid) line
  exact ⟨hanswer, hafter.player, hafter.rooms _ (.inl rfl)⟩

/-- The rooms near the player, listed. -/
theorem near_iff {s : Session} {room : Room} (hroom : s.room? = some room) {id : RoomId} :
    s.Near id ↔ id = s.player.room ∨
      ∃ entry ∈ room.paths.entries, entry.2.locked = false ∧ entry.2.target = id := by
  refine or_congr_right ⟨?_, ?_⟩
  · rintro ⟨direction, path, hp, hlock, htarget⟩
    rw [pathAt?_here hroom] at hp
    exact ⟨(direction, path), Paths.get?_eq_some_iff.1 hp, hlock, htarget⟩
  · rintro ⟨⟨direction, path⟩, he, hlock, htarget⟩
    have hp : room.path? direction = some path := Paths.get?_eq_some_iff.2 he
    exact ⟨direction, path, (pathAt?_here hroom).trans hp, hlock, htarget⟩

/-- In the hall nobody notices that the rooms behind the locked door are gone. -/
theorem hall_without_library :
    let s := start .sample .standard
    let s' : Session := { s with world :=
      { startingRoom := Document.sample.storeroom
        rooms := World.sample.rooms.filter
          (·.1 ∈ [Document.sample.hall, Document.sample.storeroom])
        nodup := World.sample.nodup.sublist (List.filter_sublist.map Prod.fst) } }
    AgreeOn s.Near s s' ∧ (s'.handle "e").1 = (s.handle "e").1 ∧
      (s'.handle "e").2.player = (s.handle "e").2.player := by
  intro s s'
  have here : s.room?.isSome = true := by decide +kernel
  have hhall : s'.world.room? s.player.room = s.world.room? s.player.room := by decide +kernel
  have hpaths : ∀ entry ∈ (s.room?.get here).paths.entries, entry.2.locked = false →
      s'.world.room? entry.2.target = s.world.room? entry.2.target := by
    revert here
    decide +kernel
  have hagree : AgreeOn s.Near s s' := by
    refine ⟨rfl, rfl, fun id hid => ?_⟩
    rcases (near_iff (Option.some_get here).symm).1 hid with rfl | ⟨entry, he, hlock, rfl⟩
    · exact hhall
    · exact hpaths entry he hlock
  obtain ⟨hanswer, hplayer, -⟩ := turn_depends_on_surroundings hagree "e"
  exact ⟨hagree, hanswer, hplayer⟩

end Session

/-! ## Plays -/

/-- No path leads out of the rooms under the ids that satisfy `p`. -/
def World.ClosedUnder (w : World) (p : RoomId → Prop) : Prop :=
  ∀ id room, p id → w.room? id = some room →
    ∀ direction path, room.path? direction = some path → p path.target

/-- A room gets no new paths. -/
theorem Room.Becomes.exists_path {room room' : Room} (h : room.Becomes room') {direction : String}
    {path' : Path} (hp : room'.path? direction = some path') :
    ∃ path, room.path? direction = some path ∧ path.target = path'.target := by
  have hmem : direction ∈ room.directions := by
    rw [← h.directions]
    exact List.mem_map.2 ⟨(direction, path'), Paths.get?_eq_some_iff.1 hp, rfl⟩
  obtain ⟨⟨_, path⟩, he, rfl⟩ := List.mem_map.1 hmem
  have hpath : room.path? _ = some path := Paths.get?_eq_some_iff.2 he
  obtain ⟨path'', hp'', htarget, -⟩ := h.paths _ path hpath
  cases hp.symm.trans hp''
  exact ⟨path, hpath, htarget.symm⟩

theorem World.Becomes.closedUnder {w w' : World} {p : RoomId → Prop} (h : w.Becomes w')
    (hclosed : w.ClosedUnder p) : w'.ClosedUnder p := by
  intro id room' hid hroom' direction path' hp'
  obtain ⟨room, hroom⟩ := World.mem_ids_iff.1 (h.ids ▸ World.mem_ids_iff.2 ⟨room', hroom'⟩)
  obtain ⟨room'', hroom'', hbecomes⟩ := h.rooms id room hroom
  cases hroom'.symm.trans hroom''
  obtain ⟨path, hp, htarget⟩ := hbecomes.exists_path hp'
  exact htarget ▸ hclosed id room hid hroom direction path hp

namespace Session

/-- The player stays in the rooms that no path leads out of. -/
theorem Turn.closedUnder {s s' : Session} {c : Command} (ht : s.Turn c s')
    (hclosed : s.world.ClosedUnder p) (hhere : p s.player.room) : p s'.player.room := by
  cases ht with
  | move hroom hpath => exact hclosed _ _ hhere hroom _ _ hpath
  | pick | put | use | idle => exact hhere

theorem near_of_closedUnder {s : Session} (hclosed : s.world.ClosedUnder p)
    (hhere : p s.player.room) (id : RoomId) (hnear : s.Near id) : p id := by
  rcases hnear with rfl | ⟨direction, path, hp, -, rfl⟩
  · exact hhere
  · obtain ⟨room, hroom, hpath⟩ := Option.bind_eq_some_iff.1 hp
    exact hclosed _ room hhere hroom direction path hpath

/-- If the worlds agree on rooms that include the player's and that no path leads out of, then a
whole play is answered in the same way in both, and they agree on these rooms still. -/
theorem play_depends_on_what_paths_reach (h : AgreeOn p s₁ s₂) (hclosed : s₁.world.ClosedUnder p)
    (hhere : p s₁.player.room) (lines : List String) :
    s₂.answers lines = s₁.answers lines ∧ AgreeOn p (s₁.run lines) (s₂.run lines) := by
  induction lines generalizing s₁ s₂ with
  | nil => exact ⟨rfl, h⟩
  | cons line lines ih =>
    have ht := turn_next s₁ line
    obtain ⟨hanswer, hnext⟩ := h.handle (near_of_closedUnder hclosed hhere) line
    obtain ⟨hanswers, hrun⟩ :=
      ih hnext (ht.becomes.closedUnder hclosed) (ht.closedUnder hclosed hhere)
    exact ⟨by rw [answers, answers, hanswer, hanswers], hrun⟩

end Session

end TextAdventure
