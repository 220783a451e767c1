import TextAdventure.Proofs.Frame

/-!
# Items keep their order

A run leaves two logs: what was picked up, and what was put down in each room. What is carried is a
sublist of the first, and what lies in a room is a sublist of what lay there at first followed by a
sublist of what was put down there (`Session.items_keep_order`). No turn reorders what it leaves in
place.
-/

namespace TextAdventure

theorem ItemList.take?_sublist {l rest : ItemList} {name : String} {item : Item}
    (h : l.take? name = some (item, rest)) : rest.toList.Sublist l.toList := by
  obtain ⟨-, rfl⟩ := take?_eq_some_iff.1 h
  exact List.eraseP_sublist

namespace Session

variable {s s' : Session} {c : Command} {id : RoomId}

/-! ## Logs -/

/-- What a command has the player pick up: the first item of the name that lies in the room. -/
def picked (s : Session) : Command → List Item
  | .get name => (s.room?.bind (·.items.find? name)).toList
  | _ => []

/-- What a command has the player put down in room `id`: the first item of the name that is carried,
if the player stands in that room. -/
def dropped (s : Session) (id : RoomId) : Command → List Item
  | .drop name =>
    if s.player.room = id ∧ s.room?.isSome then (s.player.inventory.find? name).toList else []
  | _ => []

/-- What is picked up in a run, in order. -/
def pickedIn (s : Session) : List String → List Item
  | [] => []
  | line :: lines => s.picked (s.command line) ++ (s.next line).pickedIn lines

/-- What is put down in room `id` in a run, in order. -/
def droppedIn (s : Session) (id : RoomId) : List String → List Item
  | [] => []
  | line :: lines => s.dropped id (s.command line) ++ (s.next line).droppedIn id lines

/-! ## Turns -/

/-- The items that lie in room `id`. -/
def itemsAt (s : Session) (id : RoomId) : List Item :=
  ((s.world.room? id).map (·.items.toList)).getD []

theorem itemsAt_eq {room : Room} (h : s.world.room? id = some room) :
    s.itemsAt id = room.items.toList := by
  rw [itemsAt, h]
  rfl

theorem itemsAt_change_here {room : Room} (hroom : s.room? = some room) (f : Room → Room)
    (inventory : ItemList) :
    (s.change f inventory).itemsAt s.player.room = (f room).items.toList := by
  refine itemsAt_eq ?_
  have changed := room?_change s f inventory
  rw [hroom] at changed
  exact changed

/-- Items are taken out of a list, or else one item is added at its end. -/
def KeepsOrder (old new added : List Item) : Prop :=
  (added = [] ∧ new.Sublist old) ∨ ∃ item, added = [item] ∧ new = old ++ [item]

theorem KeepsOrder.sublist {old new added : List Item} (h : KeepsOrder old new added) :
    new.Sublist (old ++ added) := by
  rcases h with ⟨-, h⟩ | ⟨item, rfl, rfl⟩
  · exact h.trans (List.sublist_append_left _ _)
  · exact .refl _

theorem Turn.inventory_keepsOrder (ht : s.Turn c s') :
    KeepsOrder s.player.inventory.toList s'.player.inventory.toList (s.picked c) := by
  cases ht with
  | @pick name room item items hroom htake =>
    have found := (ItemList.take?_eq_some_iff.1 htake).1
    exact .inr ⟨item, by simp [picked, hroom, found], rfl⟩
  | put hroom htake => exact .inl ⟨rfl, ItemList.take?_sublist htake⟩
  | move | use => exact .inl ⟨rfl, .refl _⟩
  | idle h =>
    cases c with
    | get name =>
      refine .inl ⟨?_, .refl _⟩
      cases hroom : s.room? with
      | none => simp [picked, hroom]
      | some room => simp [picked, hroom, h room hroom]
    | _ => exact .inl ⟨rfl, .refl _⟩

theorem dropped_of_ne (h : id ≠ s.player.room) (c : Command) : s.dropped id c = [] := by
  cases c with
  | drop name => exact if_neg fun here => h here.1.symm
  | _ => rfl

theorem dropped_of_idle (h : s.Idle c) (id : RoomId) : s.dropped id c = [] := by
  cases c with
  | drop name =>
    rcases h with h | h
    · exact if_neg fun here => by simp [h] at here
    · simp [dropped, h]
  | _ => rfl

theorem Turn.itemsAt_keepsOrder (ht : s.Turn c s') (id : RoomId) :
    KeepsOrder (s.itemsAt id) (s'.itemsAt id) (s.dropped id c) := by
  by_cases hid : id = s.player.room
  · subst hid
    cases ht with
    | move => exact .inl ⟨rfl, .refl _⟩
    | pick hroom htake =>
      rw [itemsAt_change_here hroom, itemsAt_eq hroom]
      exact .inl ⟨rfl, ItemList.take?_sublist htake⟩
    | @put name room item inventory hroom htake =>
      have found := (ItemList.take?_eq_some_iff.1 htake).1
      rw [itemsAt_change_here hroom, itemsAt_eq hroom]
      exact .inr ⟨item, by simp [dropped, hroom, found], rfl⟩
    | use hroom hfind =>
      rw [itemsAt_change_here hroom, itemsAt_eq hroom, Room.applyEffects_room]
      exact .inl ⟨rfl, Item.dropNamed_sublist _ _⟩
    | idle h => exact .inl ⟨dropped_of_idle h _, .refl _⟩
  · refine .inl ⟨dropped_of_ne hid c, ?_⟩
    rw [itemsAt, ht.room?_of_ne hid]
    exact .refl _

/-! ## Runs -/

theorem inventory_run_sublist (s : Session) (lines : List String) :
    (s.run lines).player.inventory.toList.Sublist
      (s.player.inventory.toList ++ s.pickedIn lines) := by
  induction lines generalizing s with
  | nil => exact List.sublist_append_left _ _
  | cons line lines ih =>
    have turn := (turn_next s line).inventory_keepsOrder.sublist
    rw [pickedIn, ← List.append_assoc]
    exact (ih (s.next line)).trans (turn.append_right _)

theorem itemsAt_run_sublist (s : Session) (id : RoomId) (lines : List String) :
    ((s.run lines).itemsAt id).Sublist (s.itemsAt id ++ s.droppedIn id lines) := by
  induction lines generalizing s with
  | nil => exact List.sublist_append_left _ _
  | cons line lines ih =>
    have turn := ((turn_next s line).itemsAt_keepsOrder id).sublist
    rw [droppedIn, ← List.append_assoc]
    exact (ih (s.next line)).trans (turn.append_right _)

/-- At any point of any play, what is carried is a sublist of what has been picked up, and what lies
in a room is some of what lay there at first followed by some of what has been put down there, both
in their order. The next turn, whatever it is, takes items out of these lists or adds one at an end:
to the inventory the one it picks up, to a room the one it puts down there. -/
theorem items_keep_order (w : World) (aliases : AliasTable) (lines : List String) :
    let s₀ := start w aliases
    let s := s₀.run lines
    s.player.inventory.toList.Sublist (s₀.pickedIn lines) ∧
      (∀ id room, s.world.room? id = some room → ∃ room₀ kept put, w.room? id = some room₀ ∧
        room.items.toList = kept ++ put ∧ kept.Sublist room₀.items.toList ∧
        put.Sublist (s₀.droppedIn id lines)) ∧
      ∀ line, let s' := s.next line
        KeepsOrder s.player.inventory.toList s'.player.inventory.toList
          (s.picked (s.command line)) ∧
        ∀ id, KeepsOrder (s.itemsAt id) (s'.itemsAt id) (s.dropped id (s.command line)) := by
  intro s₀ s
  refine ⟨inventory_run_sublist s₀ lines, fun id room hroom => ?_, fun line =>
    ⟨(turn_next s line).inventory_keepsOrder, (turn_next s line).itemsAt_keepsOrder⟩⟩
  have ids : s.world.ids = w.ids := run_of_next (P := fun s' => s'.world.ids = w.ids)
    (fun s' line h => (turn_next s' line).ids.trans h) rfl lines
  have mem : id ∈ w.ids := ids ▸ World.mem_ids_iff.2 ⟨room, hroom⟩
  obtain ⟨room₀, hroom₀⟩ := World.mem_ids_iff.1 mem
  have items := itemsAt_run_sublist s₀ id lines
  rw [itemsAt_eq hroom, itemsAt_eq (s := s₀) hroom₀, List.sublist_append_iff] at items
  obtain ⟨kept, put, split, hkept, hput⟩ := items
  exact ⟨room₀, kept, put, hroom₀, split, hkept, hput⟩

end Session

end TextAdventure
