import TextAdventure.Proofs.Locks

/-!
# What turns leave alone

A turn changes no room but the one the player stands in when it begins, and of that room only the
items and the locks, which it may clear but never sets (`Room.Becomes`). The same holds of worlds
over any number of turns, also of worlds whose rooms are not under their own ids or have paths to
nowhere: nothing is assumed of the session (`Session.turns_touch_only_what_they_may`).
-/

namespace TextAdventure

/-! ## Rooms -/

/-- The room has become `room'`: it may have other items, and locks may have been cleared. -/
structure Room.Becomes (room room' : Room) : Prop where
  id : room'.id = room.id
  description : room'.description = room.description
  characters : room'.characters = room.characters
  directions : room'.directions = room.directions
  paths : ∀ direction path, room.path? direction = some path →
    ∃ path', room'.path? direction = some path' ∧ path'.target = path.target ∧
      (path.locked = false → path'.locked = false)

namespace Room.Becomes

theorem refl (room : Room) : room.Becomes room :=
  ⟨rfl, rfl, rfl, rfl, fun _ path h => ⟨path, h, rfl, fun hopen => hopen⟩⟩

theorem trans {room₁ room₂ room₃ : Room} (h₁ : room₁.Becomes room₂) (h₂ : room₂.Becomes room₃) :
    room₁.Becomes room₃ where
  id := h₂.id.trans h₁.id
  description := h₂.description.trans h₁.description
  characters := h₂.characters.trans h₁.characters
  directions := h₂.directions.trans h₁.directions
  paths := by
    intro direction path hp
    obtain ⟨path₂, hp₂, htarget₂, hopen₂⟩ := h₁.paths direction path hp
    obtain ⟨path₃, hp₃, htarget₃, hopen₃⟩ := h₂.paths direction path₂ hp₂
    exact ⟨path₃, hp₃, htarget₃.trans htarget₂, fun h => hopen₃ (hopen₂ h)⟩

theorem withItems (room : Room) (items : ItemList) : room.Becomes { room with items } :=
  ⟨rfl, rfl, rfl, rfl, fun _ path h => ⟨path, h, rfl, fun hopen => hopen⟩⟩

theorem applyEffects (room : Room) (item : Item) :
    room.Becomes (room.applyEffects item.effects).2 := by
  rw [Room.applyEffects_room]
  refine ⟨rfl, rfl, rfl, List.map_map .., fun direction path hp => ?_⟩
  have hget : room.paths.get? direction = some path := hp
  refine ⟨_, (Paths.get?_unlockWhere ..).trans (congrArg _ hget), rfl, fun hopen => ?_⟩
  simp [hopen]

end Room.Becomes

/-! ## Worlds -/

/-- The world has become `w'`: it has the same start and the same ids, and each room has become the
one that `w'` has under its id. -/
structure World.Becomes (w w' : World) : Prop where
  start : w'.startingRoom = w.startingRoom
  ids : w'.ids = w.ids
  rooms : ∀ id room, w.room? id = some room →
    ∃ room', w'.room? id = some room' ∧ room.Becomes room'

namespace World.Becomes

theorem refl (w : World) : w.Becomes w :=
  ⟨rfl, rfl, fun _ room h => ⟨room, h, .refl room⟩⟩

theorem trans {w₁ w₂ w₃ : World} (h₁ : w₁.Becomes w₂) (h₂ : w₂.Becomes w₃) : w₁.Becomes w₃ where
  start := h₂.start.trans h₁.start
  ids := h₂.ids.trans h₁.ids
  rooms := by
    intro id room hr
    obtain ⟨room₂, hr₂, hb₂⟩ := h₁.rooms id room hr
    obtain ⟨room₃, hr₃, hb₃⟩ := h₂.rooms id room₂ hr₂
    exact ⟨room₃, hr₃, hb₂.trans hb₃⟩

theorem modifyRoom {w : World} {id : RoomId} {f : Room → Room}
    (h : ∀ room, w.room? id = some room → room.Becomes (f room)) :
    w.Becomes (w.modifyRoom id f) where
  start := rfl
  ids := World.ids_modifyRoom w id f
  rooms := by
    intro j room hr
    rw [World.room?_modifyRoom, hr]
    split
    · rename_i heq
      subst heq
      exact ⟨f room, rfl, h room hr⟩
    · exact ⟨room, rfl, .refl room⟩

end World.Becomes

/-! ## Turns -/

/-- What a session is given to answer: a line of input, or a command that is understood already. -/
inductive Input
  | line (text : String)
  | command (c : Command)
  deriving DecidableEq, Repr

namespace Session

variable {s s' : Session} {c : Command}

/-- The command that an input comes to. -/
def commandOf (s : Session) : Input → Command
  | .line text => s.command text
  | .command c => c

/-- Answers an input. -/
def respond (s : Session) : Input → Response × Session
  | .line text => s.handle text
  | .command c => s.execute c

/-- The session after some inputs. -/
def after (s : Session) (inputs : List Input) : Session :=
  inputs.foldl (fun s input => (s.respond input).2) s

theorem turn_respond (s : Session) (input : Input) :
    s.Turn (s.commandOf input) (s.respond input).2 := by
  cases input with
  | line text => exact turn_next s text
  | command c => exact turn_execute s c

/-- What every turn keeps stays over any inputs. -/
theorem after_of_turn {P : Session → Prop} (hturn : ∀ {s c s'}, Turn s c s' → P s → P s') (h : P s)
    (inputs : List Input) : P (s.after inputs) := by
  induction inputs generalizing s with
  | nil => exact h
  | cons input inputs ih => exact ih (hturn (turn_respond s input) h)

theorem becomes_change {f : Room → Room} (hf : ∀ room, s.room? = some room → room.Becomes (f room))
    (inventory : ItemList) : s.world.Becomes (s.change f inventory).world :=
  .modifyRoom hf

theorem Turn.becomes (h : s.Turn c s') : s.world.Becomes s'.world := by
  cases h with
  | move | idle => exact .refl _
  | pick | put => exact becomes_change (fun room _ => .withItems room _) _
  | @use name room item hroom hfind =>
    refine becomes_change (fun old hold => ?_) _
    cases hroom.symm.trans hold
    exact .applyEffects room item

theorem Turn.room?_of_ne (h : s.Turn c s') {id : RoomId} (hid : id ≠ s.player.room) :
    s'.world.room? id = s.world.room? id := by
  cases h with
  | move | idle => rfl
  | pick | put | use => exact world_room?_change_of_ne hid _ _

theorem Turn.exists_of_inventory_ne (h : s.Turn c s')
    (hne : s'.player.inventory ≠ s.player.inventory) :
    ∃ name, c = .get name ∨ c = .drop name := by
  cases h with
  | pick => exact ⟨_, .inl rfl⟩
  | put => exact ⟨_, .inr rfl⟩
  | move | use | idle => exact absurd rfl hne

/-! ## Runs -/

theorem becomes_after (s : Session) (inputs : List Input) :
    s.world.Becomes (s.after inputs).world :=
  after_of_turn (P := fun s' => s.world.Becomes s'.world) (fun ht h => h.trans ht.becomes)
    (.refl _) inputs

theorem aliases_after (s : Session) (inputs : List Input) : (s.after inputs).aliases = s.aliases :=
  after_of_turn (P := fun s' => s'.aliases = s.aliases) (fun ht h => ht.aliases.trans h) rfl inputs

/-- After any inputs the aliases are the same and the world has at most lost locks and exchanged
items. The next input, whatever it is, touches only the room where the player stands; it changes
what is carried only by picking up or putting down, and where the player stands only by going. -/
theorem turns_touch_only_what_they_may (s : Session) (inputs : List Input) (input : Input) :
    let before := s.after inputs
    let after := (before.respond input).2
    (s.world.Becomes before.world ∧ before.aliases = s.aliases) ∧
      (∀ id, id ≠ before.player.room → after.world.room? id = before.world.room? id) ∧
      (after.player.inventory ≠ before.player.inventory →
        ∃ name, before.commandOf input = .get name ∨ before.commandOf input = .drop name) ∧
      (after.player.room ≠ before.player.room →
        ∃ direction, before.commandOf input = .go direction) := by
  intro before after
  have ht : before.Turn (before.commandOf input) after := turn_respond before input
  refine ⟨⟨becomes_after s inputs, aliases_after s inputs⟩, fun _ => ht.room?_of_ne,
    ht.exists_of_inventory_ne, fun hne => ?_⟩
  obtain ⟨direction, _, hgo, -⟩ := ht.exists_path_of_move hne
  exact ⟨direction, hgo⟩

end Session

end TextAdventure
