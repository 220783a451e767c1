import TextAdventure.Proofs.Soundness

/-!
# Locks

A path loses its lock in the turn in which the player, standing in its room, uses an item that
unlocks its direction there, and in no other turn; no turn sets a lock. So the turns played tell
which paths are still locked (`Session.locked_iff_never_unlocked`), and the player moves along
unlocked paths only.
-/

namespace TextAdventure

namespace Session

variable {s s' : Session} {id : RoomId} {direction : String} {path : Path}

/-- The path in a direction of a room. -/
def pathAt? (s : Session) (id : RoomId) (direction : String) : Option Path :=
  (s.world.room? id).bind (·.path? direction)

/-- The command has the player use, in room `id`, an item that unlocks `direction` there. Of the
items of the name it is the first one carried. -/
def Unlocks (s : Session) (c : Command) (id : RoomId) (direction : String) : Prop :=
  s.player.room = id ∧ ∃ name item, c = .use name ∧ s.player.inventory.find? name = some item ∧
    ∃ e ∈ item.effectList, e.Unlocks id direction

/-! ## Turns -/

theorem pathAt?_change_of_ne (h : id ≠ s.player.room) (f : Room → Room) (inventory : ItemList) :
    (s.change f inventory).pathAt? id direction = s.pathAt? id direction := by
  rw [pathAt?, world_room?_change_of_ne h]
  rfl

theorem pathAt?_change_here {room : Room} (hroom : s.room? = some room) (f : Room → Room)
    (inventory : ItemList) :
    (s.change f inventory).pathAt? s.player.room direction = (f room).path? direction := by
  have h : (s.change f inventory).world.room? s.player.room = some (f room) :=
    (room?_change s f inventory).trans (by rw [hroom]; rfl)
  rw [pathAt?, h]
  rfl

theorem pathAt?_here {room : Room} (hroom : s.room? = some room) :
    s.pathAt? s.player.room direction = room.path? direction := by
  have h : s.world.room? s.player.room = some room := hroom
  rw [pathAt?, h]
  rfl

/-- Moving an item leaves the paths alone. -/
theorem pathAt?_change_items (items : Room → ItemList) (inventory : ItemList) :
    (s.change (fun room => { room with items := items room }) inventory).pathAt? id direction =
      s.pathAt? id direction := by
  by_cases hid : id = s.player.room
  · subst hid
    unfold pathAt? change
    simp only [World.room?_modifyRoom, if_true]
    cases s.world.room? s.player.room <;> rfl
  · exact pathAt?_change_of_ne hid _ _

/-- Using an item in its room clears the lock of a path if an effect of the item unlocks it. -/
theorem pathAt?_change_use {room : Room} (hroom : s.room? = some room) (item : Item)
    (hp : s.pathAt? s.player.room direction = some path) :
    (s.change (fun _ => (room.applyEffects item.effects).2) s.player.inventory).pathAt?
        s.player.room direction =
      some { path with
        locked := path.locked && !UseEffect.unlocked item.effectList room.id direction } := by
  rw [pathAt?_here hroom] at hp
  have hget : room.paths.get? direction = some path := hp
  rw [pathAt?_change_here hroom, Room.applyEffects_room, Room.path?, Paths.get?_unlockWhere, hget]
  rfl

theorem not_unlocks_of_idle (hs : s.Sound) {c : Command} (h : s.Idle c) :
    ¬s.Unlocks c id direction := by
  rintro ⟨-, name, item, rfl, hfind, -⟩
  obtain ⟨room, hroom⟩ := hs.exists_room
  rcases h with h | h
  · cases h.symm.trans hroom
  · cases h.symm.trans hfind

/-- What a turn does to a path. -/
theorem Sound.path_of_turn (hs : s.Sound) {c : Command} (ht : s.Turn c s')
    (hp : s.pathAt? id direction = some path) :
    ∃ path', s'.pathAt? id direction = some path' ∧ path'.target = path.target ∧
      (path'.locked = true ↔ path.locked = true ∧ ¬s.Unlocks c id direction) := by
  have same (h : s'.pathAt? id direction = s.pathAt? id direction)
      (hn : ¬s.Unlocks c id direction) :
      ∃ path', s'.pathAt? id direction = some path' ∧ path'.target = path.target ∧
        (path'.locked = true ↔ path.locked = true ∧ ¬s.Unlocks c id direction) :=
    ⟨path, h.trans hp, rfl, by simp [hn]⟩
  cases ht with
  | move => exact same rfl (by simp [Unlocks])
  | pick => exact same (pathAt?_change_items _ _) (by simp [Unlocks])
  | put => exact same (pathAt?_change_items _ _) (by simp [Unlocks])
  | @use name room item hroom hfind =>
    by_cases hid : id = s.player.room
    · subst hid
      have hunlocks : s.Unlocks (.use name) s.player.room direction ↔
          UseEffect.unlocked item.effectList room.id direction = true := by
        rw [UseEffect.unlocked_eq_true_iff, hs.id_room hroom]
        constructor
        · rintro ⟨-, _, item', heq, hfind', he⟩
          cases heq
          cases hfind.symm.trans hfind'
          exact he
        · exact fun he => ⟨rfl, name, item, rfl, hfind, he⟩
      refine ⟨_, pathAt?_change_use hroom item hp, rfl, ?_⟩
      rw [hunlocks]
      simp
    · exact same (pathAt?_change_of_ne hid _ _) fun hu => hid hu.1.symm
  | idle h => exact same rfl (not_unlocks_of_idle hs h)

/-- Which way the player goes in a turn. -/
theorem Turn.exists_path_of_move {c : Command} (ht : s.Turn c s')
    (hne : s'.player.room ≠ s.player.room) :
    ∃ direction path, c = .go direction ∧ s.pathAt? s.player.room direction = some path ∧
      path.locked = false ∧ s'.player.room = path.target := by
  cases ht with
  | @move direction room path hroom hpath hlock =>
    exact ⟨direction, path, rfl, (pathAt?_here hroom).trans hpath, hlock, rfl⟩
  | pick | put | use | idle => exact absurd rfl hne

/-- Going along an unlocked path leads to its target. -/
theorem Turn.room_of_go (ht : s.Turn (.go direction) s')
    (hp : s.pathAt? s.player.room direction = some path) (hlock : path.locked = false) :
    s'.player.room = path.target := by
  cases ht with
  | move hroom hpath _ =>
    rw [pathAt?_here hroom] at hp
    cases hp.symm.trans hpath
    rfl
  | idle h => cases hlock.symm.trans (h path hp)

/-! ## Runs -/

/-- What a run does to a path. -/
theorem Sound.path_of_run (hs : s.Sound) (lines : List String)
    (hp : s.pathAt? id direction = some path) :
    ∃ path', (s.run lines).pathAt? id direction = some path' ∧ path'.target = path.target ∧
      (path'.locked = true ↔ path.locked = true ∧
        ¬∃ i, ∃ hi : i < lines.length, (s.run (lines.take i)).Unlocks
          ((s.run (lines.take i)).command lines[i]) id direction) := by
  induction lines generalizing s path with
  | nil => exact ⟨path, hp, rfl, by simp⟩
  | cons line lines ih =>
    obtain ⟨path₁, hp₁, htarget₁, hlocked₁⟩ := hs.path_of_turn (turn_next s line) hp
    obtain ⟨path₂, hp₂, htarget₂, hlocked₂⟩ := ih (hs.next line) hp₁
    refine ⟨path₂, hp₂, htarget₂.trans htarget₁, ?_⟩
    rw [hlocked₂, hlocked₁, and_assoc, ← not_or]
    refine and_congr_right fun _ => not_congr ⟨?_, ?_⟩
    · rintro (h | ⟨i, hi, h⟩)
      · exact ⟨0, Nat.succ_pos _, h⟩
      · exact ⟨i + 1, Nat.succ_lt_succ hi, h⟩
    · rintro ⟨i, hi, h⟩
      cases i with
      | zero => exact .inl h
      | succ i => exact .inr ⟨i, Nat.lt_of_succ_lt_succ hi, h⟩

/-- After any play, a path is locked exactly if it was locked at first and in no turn did the player
use, in the path's room, an item that unlocks it there. In each turn the player changes rooms only by
going along a path that is unlocked at that moment, and going along one leads to its target. -/
theorem locked_iff_never_unlocked {d : Document} {w : World} (h : World.ofDocument d = .ok w)
    (aliases : AliasTable) (lines : List String) :
    let s (i : Nat) := (start w aliases).run (lines.take i)
    (∀ id direction path, (start w aliases).pathAt? id direction = some path →
        ∃ path', ((start w aliases).run lines).pathAt? id direction = some path' ∧
          path'.target = path.target ∧
          (path'.locked = true ↔ path.locked = true ∧
            ¬∃ i, ∃ hi : i < lines.length, (s i).Unlocks ((s i).command lines[i]) id direction)) ∧
      ∀ i, ∀ hi : i < lines.length,
        ((s (i + 1)).player.room ≠ (s i).player.room →
          ∃ direction path, (s i).command lines[i] = .go direction ∧
            (s i).pathAt? (s i).player.room direction = some path ∧ path.locked = false ∧
            (s (i + 1)).player.room = path.target) ∧
        ∀ direction path, (s i).command lines[i] = .go direction →
          (s i).pathAt? (s i).player.room direction = some path → path.locked = false →
          (s (i + 1)).player.room = path.target := by
  intro s
  have hs : (start w aliases).Sound := Sound.start (World.Sound.of_ofDocument h) aliases
  have step {i : Nat} (hi : i < lines.length) :
      (s i).Turn ((s i).command lines[i]) (s (i + 1)) := by
    have hnext : s (i + 1) = (s i).next lines[i] := by
      simp only [s, run, ← List.take_append_getElem hi, List.foldl_append, List.foldl_cons,
        List.foldl_nil]
    exact hnext ▸ turn_next (s i) lines[i]
  refine ⟨fun id direction path hp => hs.path_of_run lines hp, fun i hi => ⟨?_, ?_⟩⟩
  · exact (step hi).exists_path_of_move
  · exact fun direction path hc hp hlock => Turn.room_of_go (hc ▸ step hi) hp hlock

theorem key_unlocks_hall_door :
    World.ofDocument .sample = .ok .sample ∧
      ∃ path, ((start .sample .standard).run ["get key", "use key"]).pathAt?
          Document.sample.hall "north" = some path ∧
        path.target = Document.sample.library ∧ path.locked = false := by
  obtain ⟨path, hp, htarget, hlocked⟩ :=
    (locked_iff_never_unlocked World.ofDocument_sample .standard ["get key", "use key"]).1
      Document.sample.hall "north" ⟨Document.sample.library, true⟩ (by decide +kernel)
  refine ⟨World.ofDocument_sample, path, hp, htarget, Bool.eq_false_iff.2 fun h => ?_⟩
  let s := (start .sample .standard).run ["get key"]
  have carried : (s.player.inventory.find? "key").isSome = true := by decide +kernel
  have opens : ∃ e ∈ ((s.player.inventory.find? "key").get carried).effectList,
      e.Unlocks Document.sample.hall "north" := by
    clear hlocked hp
    revert carried
    decide +kernel
  have used : s.Unlocks (s.command "use key") Document.sample.hall "north" :=
    ⟨by decide +kernel, "key", _, by decide +kernel, (Option.some_get carried).symm, opens⟩
  exact (hlocked.1 h).2 ⟨1, by decide, used⟩

end Session

end TextAdventure
