import Mathlib.Tactic.ByContra
import TextAdventure.Proofs.Turn
import TextAdventure.Proofs.Use

/-!
# Which commands change something

A command changes the world or the player exactly when it succeeds: a way is open and leads
elsewhere, an item is there to be picked up or put down, or an effect of the used item finds
something to do (`Session.changes_iff_succeeds`). For a use this is so although effects see what the
ones before them have left: the first effect that finds something to do finds the room as it was.
-/

namespace TextAdventure

/-! ## What stays as it is -/

theorem Item.dropNamed_eq_self_iff {k : String → Nat} {items : List Item} :
    dropNamed k items = items ↔ ∀ item ∈ items, k item.name = 0 := by
  induction items with
  | nil => simp [dropNamed]
  | cons item items ih =>
    rw [dropNamed, List.forall_mem_cons]
    split
    · rename_i hk
      simp [hk, ih]
    · rename_i hk
      refine iff_of_false (fun heq => ?_) (fun h => hk h.1)
      have hsub : (item :: items).Sublist items := heq ▸ dropNamed_sublist _ items
      have hle := hsub.length_le
      rw [List.length_cons] at hle
      omega

theorem Paths.unlockWhere_eq_self_iff {ps : Paths} {p : String → Bool} :
    ps.unlockWhere p = ps ↔
      ∀ direction path, ps.get? direction = some path → path.locked = true →
        p direction = false := by
  constructor
  · intro heq direction path hp hlock
    have hget := get?_unlockWhere ps p direction
    rw [heq, hp, Option.map_some, Option.some.injEq] at hget
    have hlocked := congrArg Path.locked hget
    simpa [hlock] using hlocked
  · intro h
    refine ext ((List.map_congr_left fun entry he => ?_).trans (List.map_id ps.entries))
    obtain ⟨direction, target, locked⟩ := entry
    cases locked with
    | false => rfl
    | true => simp [h direction ⟨target, true⟩ (get?_eq_some_iff.2 he) rfl]

theorem World.modifyRoom_eq_self_iff {w : World} {id : RoomId} {room : Room} {f : Room → Room}
    (h : w.room? id = some room) : w.modifyRoom id f = w ↔ f room = room := by
  constructor
  · intro heq
    have hroom := room?_modifyRoom w id id f
    rw [heq, h, if_pos rfl, Option.map_some, Option.some.injEq] at hroom
    exact hroom.symm
  · intro hf
    obtain ⟨before, after, hrooms, hmodify⟩ := exists_rooms_eq h
    have heq : (w.modifyRoom id f).rooms = w.rooms := by rw [hmodify, hf, hrooms]
    cases w
    simp only [modifyRoom, mk.injEq, true_and] at heq ⊢
    exact heq

/-! ## Effects that do something -/

namespace UseEffect

/-- The effect fires in the room and finds an item to remove or a lock to clear. -/
def Acts (e : UseEffect) (room : Room) : Prop :=
  e.room = some room.id ∧
    (e.action = .opens ∧ (∃ item ∈ room.items.toList, item.name = e.target) ∨
      e.action = .unlocks ∧ ∃ path, room.path? e.target = some path ∧ path.locked = true)

theorem openings_eq_zero_iff {es : List UseEffect} {id : RoomId} {name : String} :
    openings es id name = 0 ↔ ∀ e ∈ es, ¬e.Opens id name := by
  simp [openings]

theorem unlocked_eq_false_iff {es : List UseEffect} {id : RoomId} {direction : String} :
    unlocked es id direction = false ↔ ∀ e ∈ es, ¬e.Unlocks id direction := by
  simp [unlocked]

end UseEffect

theorem Room.applyEffects_eq_self_iff {room : Room} {item : Item} :
    (room.applyEffects item.effects).2 = room ↔ ∀ e ∈ item.effectList, ¬e.Acts room := by
  have hroom : (room.applyEffects item.effects).2 = room ↔
      Item.dropNamed (UseEffect.openings item.effectList room.id) room.items.toList =
          room.items.toList ∧
        room.paths.unlockWhere (UseEffect.unlocked item.effectList room.id) = room.paths := by
    rw [Room.applyEffects_room]
    constructor
    · exact fun heq => ⟨congrArg (fun r => r.items.toList) heq, congrArg Room.paths heq⟩
    · rintro ⟨hitems, hpaths⟩
      rw [hitems, hpaths]
  rw [hroom, Item.dropNamed_eq_self_iff, Paths.unlockWhere_eq_self_iff]
  simp only [UseEffect.openings_eq_zero_iff, UseEffect.unlocked_eq_false_iff]
  constructor
  · rintro ⟨hitems, hpaths⟩ e he ⟨hfires, ⟨haction, i, hi, hname⟩ | ⟨haction, path, hp, hlock⟩⟩
    · exact hitems i hi e he ⟨hfires, haction, hname.symm⟩
    · exact hpaths e.target path hp hlock e he ⟨hfires, haction, rfl⟩
  · intro h
    refine ⟨fun i hi e he => ?_, fun direction path hp hlock e he => ?_⟩
    · rintro ⟨hfires, haction, hname⟩
      exact h e he ⟨hfires, .inl ⟨haction, i, hi, hname.symm⟩⟩
    · rintro ⟨hfires, haction, rfl⟩
      exact h e he ⟨hfires, .inr ⟨haction, path, hp, hlock⟩⟩

/-! ## Commands that succeed -/

namespace ItemList

variable {l rest : ItemList} {name : String} {item : Item}

theorem find?_eq_none_iff : l.find? name = none ↔ ¬∃ item ∈ l.toList, item.name = name := by
  simp [find?]

theorem exists_of_take? (h : l.take? name = some (item, rest)) :
    ∃ item ∈ l.toList, item.name = name :=
  have hfind := (take?_eq_some_iff.1 h).1
  ⟨item, mem_of_find? hfind, by simpa using List.find?_some hfind⟩

theorem push_ne_self (l : ItemList) (item : Item) : l.push item ≠ l := by
  intro heq
  have hlength := congrArg (·.toList.length) heq
  simp at hlength

theorem ne_of_take? (h : l.take? name = some (item, rest)) : rest ≠ l := by
  rintro rfl
  have hlength := (perm_of_take? h).length_eq
  simp at hlength

end ItemList

namespace Session

variable {s s' : Session} {c : Command}

/-- The command, given in this room, succeeds in changing something. -/
def Succeeds (s : Session) (room : Room) : Command → Prop
  | .go direction =>
    ∃ path, room.path? direction = some path ∧ path.locked = false ∧ path.target ≠ s.player.room
  | .get name => ∃ item ∈ room.items.toList, item.name = name
  | .drop name => ∃ item ∈ s.player.inventory.toList, item.name = name
  | .use name =>
    ∃ item, s.player.inventory.find? name = some item ∧ ∃ e ∈ item.effectList, e.Acts room
  | _ => False

theorem not_succeeds_of_idle {room : Room} (h : s.Idle c) (hroom : s.room? = some room) :
    ¬s.Succeeds room c := by
  cases c with
  | go direction =>
    rintro ⟨path, hp, hopen, -⟩
    have hlock := h path (by simp [hroom, hp])
    cases hlock.symm.trans hopen
  | get name => exact ItemList.find?_eq_none_iff.1 (h room hroom)
  | drop name =>
    rcases h with h | h
    · cases h.symm.trans hroom
    · exact ItemList.find?_eq_none_iff.1 h
  | use name =>
    rintro ⟨item, hfind, -⟩
    rcases h with h | h
    · cases h.symm.trans hroom
    · cases h.symm.trans hfind
  | empty | look | inventory | quit | talkTo | incomplete | unknown => exact not_false

theorem Turn.changes_iff (ht : s.Turn c s') :
    (s'.world, s'.player) ≠ (s.world, s.player) ↔
      ∃ room, s.room? = some room ∧ s.Succeeds room c := by
  have here {room : Room} (hroom : s.room? = some room) :
      (∃ room, s.room? = some room ∧ s.Succeeds room c) ↔ s.Succeeds room c := by
    simp [hroom]
  cases ht with
  | @move direction room path hroom hpath hlock =>
    rw [here hroom]
    constructor
    · intro hne
      refine ⟨path, hpath, hlock, fun htarget => hne ?_⟩
      rw [htarget]
    · rintro ⟨path', hpath', -, htarget⟩ heq
      cases hpath.symm.trans hpath'
      exact htarget (congrArg (·.2.room) heq)
  | @pick name room item items hroom htake =>
    rw [here hroom]
    refine iff_of_true (fun heq => ?_) (ItemList.exists_of_take? htake)
    exact ItemList.push_ne_self _ _ (congrArg (·.2.inventory) heq)
  | @put name room item inventory hroom htake =>
    rw [here hroom]
    refine iff_of_true (fun heq => ?_) (ItemList.exists_of_take? htake)
    exact ItemList.ne_of_take? htake (congrArg (·.2.inventory) heq)
  | @use name room item hroom hfind =>
    have hworld : s.world.modifyRoom s.player.room (fun _ => (room.applyEffects item.effects).2) =
        s.world ↔ ∀ e ∈ item.effectList, ¬e.Acts room :=
      (World.modifyRoom_eq_self_iff hroom).trans Room.applyEffects_eq_self_iff
    rw [here hroom]
    constructor
    · intro hne
      by_contra hnone
      refine hne (Prod.ext (hworld.2 fun e he hacts => hnone ⟨item, hfind, e, he, hacts⟩) rfl)
    · rintro ⟨item', hfind', e, he, hacts⟩ heq
      cases hfind.symm.trans hfind'
      exact hworld.1 (congrArg Prod.fst heq) e he hacts
  | idle h =>
    refine iff_of_false (fun hne => hne rfl) ?_
    rintro ⟨room, hroom, hsucceeds⟩
    exact not_succeeds_of_idle h hroom hsucceeds

/-! ## Answers -/

theorem look_ne_nil (s : Session) : s.look ≠ [] := by
  unfold look
  split <;> simp [describe]

theorem go_ne_nil (s : Session) (direction : String) : (s.go direction).1 ≠ [] := by
  unfold go
  split
  · simp
  · split
    · simp
    · split <;> simp

theorem use_ne_nil (s : Session) (name : String) : (s.use name).1 ≠ [] := by
  unfold use
  split
  · simp
  · split <;> simp

theorem inventory_ne_nil (s : Session) : s.inventory ≠ [] := by
  unfold inventory
  split <;> simp

theorem lines_execute_ne_nil (s : Session) (c : Command) : (s.execute c).1.lines ≠ [] := by
  cases c with
  | look => exact look_ne_nil s
  | go direction => exact go_ne_nil s direction
  | use name => exact use_ne_nil s name
  | inventory => exact inventory_ne_nil s
  | empty | quit | get | drop | talkTo | incomplete | unknown => exact List.cons_ne_nil _ _

theorem outcome_execute_eq_quit_iff (s : Session) (c : Command) :
    (s.execute c).1.outcome = .quit ↔ c = .quit := by
  cases c <;> simp [execute, Response.say]

/-- A command changes the world or the player exactly if the player's room is there and the command
succeeds in it. It is answered in any case, and the outcome is to quit only if it asks for that. -/
theorem changes_iff_succeeds (s : Session) (c : Command) :
    let response := (s.execute c).1
    let s' := (s.execute c).2
    ((s'.world, s'.player) ≠ (s.world, s.player) ↔
        ∃ room, s.room? = some room ∧ s.Succeeds room c) ∧
      response.lines ≠ [] ∧ (response.outcome = .quit ↔ c = .quit) :=
  ⟨(turn_execute s c).changes_iff, lines_execute_ne_nil s c, outcome_execute_eq_quit_iff s c⟩

end Session

end TextAdventure
