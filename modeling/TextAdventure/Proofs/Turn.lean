import TextAdventure.Session
import TextAdventure.Proofs.Lookup

/-!
# Turns and runs

All that a command can do to a session is told once, by `Session.Turn`: it moves the player, an item
or both, or has an item used, or it does nothing, and then there was nothing it could do
(`Session.Idle`). What every turn keeps is kept by runs of any length (`Session.run_of_next`).
-/

namespace TextAdventure

namespace ItemList

variable {l rest : ItemList} {name : String} {item : Item}

theorem take?_eq_some_iff :
    l.take? name = some (item, rest) ↔
      l.find? name = some item ∧ rest = ⟨l.toList.eraseP (·.name = name)⟩ := by
  simp only [take?, takeWhere?, find?, Option.map_eq_some_iff, Prod.mk.injEq]
  constructor
  · rintro ⟨item, hf, rfl, rfl⟩
    exact ⟨hf, rfl⟩
  · rintro ⟨hf, rfl⟩
    exact ⟨item, hf, rfl, rfl⟩

theorem take?_eq_none_iff_find? : l.take? name = none ↔ l.find? name = none := by
  simp [take?, takeWhere?, find?]

/-- The item is the first one of the name, and the rest is what stands before and after it. -/
theorem take?_eq_some_iff_append :
    l.take? name = some (item, rest) ↔ ∃ before after, l.toList = before ++ item :: after ∧
      (∀ i ∈ before, i.name ≠ name) ∧ item.name = name ∧ rest = ⟨before ++ after⟩ := by
  rw [take?_eq_some_iff]
  constructor
  · rintro ⟨hf, rfl⟩
    obtain ⟨hname, before, after, hl, hbefore⟩ := List.find?_eq_some_iff_append.1 hf
    refine ⟨before, after, hl, by simpa using hbefore, by simpa using hname, ?_⟩
    rw [hl, List.eraseP_append_right _ (by simpa using hbefore),
      List.eraseP_cons_of_pos (by simpa using hname)]
  · rintro ⟨before, after, hl, hbefore, hname, rfl⟩
    refine ⟨?_, ?_⟩
    · rw [find?, hl, List.find?_eq_some_iff_append]
      exact ⟨by simpa using hname, before, after, rfl, by simpa using hbefore⟩
    · rw [hl, List.eraseP_append_right _ (by simpa using hbefore),
        List.eraseP_cons_of_pos (by simpa using hname)]

theorem perm_of_take? (h : l.take? name = some (item, rest)) :
    l.toList.Perm (item :: rest.toList) := by
  obtain ⟨before, after, hl, -, -, rfl⟩ := take?_eq_some_iff_append.1 h
  rw [hl]
  exact List.perm_middle

theorem mem_of_find? (h : l.find? name = some item) : item ∈ l.toList :=
  List.mem_of_find?_eq_some h

end ItemList

namespace Session

variable {s : Session}

/-! ## Turns -/

/-- The command asks for no change, or for one that is not possible. -/
def Idle (s : Session) : Command → Prop
  | .go direction =>
    ∀ path, s.room?.bind (·.path? direction) = some path → path.locked = true
  | .get name => ∀ room, s.room? = some room → room.items.find? name = none
  | .drop name => s.room? = none ∨ s.player.inventory.find? name = none
  | .use name => s.room? = none ∨ s.player.inventory.find? name = none
  | _ => True

/-- The session with the player's room changed by `f` and with another inventory. -/
def change (s : Session) (f : Room → Room) (inventory : ItemList) : Session where
  world := s.world.modifyRoom s.player.room f
  player := ⟨s.player.room, inventory⟩
  aliases := s.aliases

theorem room?_change (s : Session) (f : Room → Room) (inventory : ItemList) :
    (s.change f inventory).room? = s.room?.map f := by
  simp [room?, change, World.room?_modifyRoom]

theorem world_room?_change_of_ne {id : RoomId} (h : id ≠ s.player.room) (f : Room → Room)
    (inventory : ItemList) : (s.change f inventory).world.room? id = s.world.room? id := by
  simp [change, World.room?_modifyRoom, h]

/-- What a command does to a session. -/
inductive Turn (s : Session) : Command → Session → Prop
  | move {direction : String} {room : Room} {path : Path} (hroom : s.room? = some room)
      (hpath : room.path? direction = some path) (hlock : path.locked = false) :
      Turn s (.go direction) { s with player := { s.player with room := path.target } }
  | pick {name : String} {room : Room} {item : Item} {items : ItemList}
      (hroom : s.room? = some room) (htake : room.items.take? name = some (item, items)) :
      Turn s (.get name)
        (s.change (fun room => { room with items }) (s.player.inventory.push item))
  | put {name : String} {room : Room} {item : Item} {inventory : ItemList}
      (hroom : s.room? = some room)
      (htake : s.player.inventory.take? name = some (item, inventory)) :
      Turn s (.drop name)
        (s.change (fun room => { room with items := room.items.push item }) inventory)
  | use {name : String} {room : Room} {item : Item} (hroom : s.room? = some room)
      (hfind : s.player.inventory.find? name = some item) :
      Turn s (.use name)
        (s.change (fun _ => (room.applyEffects item.effects).2) s.player.inventory)
  | idle {c : Command} (h : s.Idle c) : Turn s c s

theorem turn_go (s : Session) (direction : String) : s.Turn (.go direction) (s.go direction).2 := by
  cases hroom : s.room? with
  | none =>
    simp only [go, hroom]
    exact .idle (by simp [Idle, hroom])
  | some room =>
    cases hpath : room.path? direction with
    | none =>
      simp only [go, hroom, hpath]
      exact .idle (by simp [Idle, hroom, hpath])
    | some path =>
      cases hlock : path.locked with
      | true =>
        simp only [go, hroom, hpath, hlock, if_true]
        exact .idle (by simp [Idle, hroom, hpath, hlock])
      | false =>
        simp only [go, hroom, hpath, hlock, Bool.false_eq_true, if_false]
        exact .move hroom hpath hlock

theorem turn_get (s : Session) (name : String) : s.Turn (.get name) (s.get name).2 := by
  cases hroom : s.room? with
  | none =>
    simp only [get, hroom]
    exact .idle (by simp [Idle, hroom])
  | some room =>
    cases htake : room.items.take? name with
    | none =>
      simp only [get, hroom, htake]
      exact .idle (by simp [Idle, hroom, ItemList.take?_eq_none_iff_find?.1 htake])
    | some p =>
      simp only [get, hroom, htake]
      exact .pick hroom htake

theorem turn_drop (s : Session) (name : String) : s.Turn (.drop name) (s.drop name).2 := by
  cases hroom : s.room? with
  | none =>
    simp only [drop, hroom]
    exact .idle (.inl hroom)
  | some room =>
    cases htake : s.player.inventory.take? name with
    | none =>
      simp only [drop, hroom, htake]
      exact .idle (.inr (ItemList.take?_eq_none_iff_find?.1 htake))
    | some p =>
      simp only [drop, hroom, htake]
      exact .put hroom htake

theorem turn_use (s : Session) (name : String) : s.Turn (.use name) (s.use name).2 := by
  cases hfind : s.player.inventory.find? name with
  | none =>
    simp only [use, hfind]
    exact .idle (.inr hfind)
  | some item =>
    cases hroom : s.room? with
    | none =>
      simp only [use, hfind, hroom]
      exact .idle (.inl hroom)
    | some room =>
      simp only [use, hfind, hroom]
      exact .use hroom hfind

theorem turn_execute (s : Session) (c : Command) : s.Turn c (s.execute c).2 := by
  cases c with
  | go direction => exact turn_go s direction
  | get name => exact turn_get s name
  | drop name => exact turn_drop s name
  | use name => exact turn_use s name
  | empty | look | inventory | quit | talkTo | incomplete | unknown => exact .idle trivial

theorem Turn.eq_of_use {name : String} {room : Room} {item : Item} {s' : Session}
    (ht : s.Turn (.use name) s') (hroom : s.room? = some room)
    (hfind : s.player.inventory.find? name = some item) :
    s' = s.change (fun _ => (room.applyEffects item.effects).2) s.player.inventory := by
  cases ht with
  | use hroom' hfind' =>
    cases hroom.symm.trans hroom'
    cases hfind.symm.trans hfind'
    rfl
  | idle h =>
    rcases h with h | h
    · cases h.symm.trans hroom
    · cases h.symm.trans hfind

theorem Turn.eq_of_get {name : String} {room : Room} {item : Item} {items : ItemList} {s' : Session}
    (ht : s.Turn (.get name) s') (hroom : s.room? = some room)
    (htake : room.items.take? name = some (item, items)) :
    s' = s.change (fun room => { room with items }) (s.player.inventory.push item) := by
  cases ht with
  | pick hroom' htake' =>
    cases hroom.symm.trans hroom'
    cases htake.symm.trans htake'
    rfl
  | idle h => cases (ItemList.take?_eq_some_iff.1 htake).1.symm.trans (h room hroom)

theorem Turn.eq_of_drop {name : String} {room : Room} {item : Item} {inventory : ItemList}
    {s' : Session} (ht : s.Turn (.drop name) s') (hroom : s.room? = some room)
    (htake : s.player.inventory.take? name = some (item, inventory)) :
    s' = s.change (fun room => { room with items := room.items.push item }) inventory := by
  cases ht with
  | put _ htake' =>
    cases htake.symm.trans htake'
    rfl
  | idle h =>
    rcases h with h | h
    · cases h.symm.trans hroom
    · cases (ItemList.take?_eq_some_iff.1 htake).1.symm.trans h

/-! ## Runs -/

/-- The command that a line of input comes to. -/
def command (s : Session) (line : String) : Command :=
  Command.parse (s.aliases.resolve line)

/-- The session after a line of input. -/
def next (s : Session) (line : String) : Session :=
  (s.handle line).2

/-- The session after some lines of input. -/
def run (s : Session) (lines : List String) : Session :=
  lines.foldl next s

theorem turn_next (s : Session) (line : String) : s.Turn (s.command line) (s.next line) :=
  turn_execute s (s.command line)

@[simp] theorem run_nil (s : Session) : s.run [] = s :=
  rfl

@[simp] theorem run_cons (s : Session) (line : String) (lines : List String) :
    s.run (line :: lines) = (s.next line).run lines :=
  rfl

/-- What every turn keeps, every run keeps. -/
theorem run_of_next {P : Session → Prop} (hnext : ∀ s line, P s → P (s.next line)) (h : P s)
    (lines : List String) : P (s.run lines) := by
  induction lines generalizing s with
  | nil => exact h
  | cons line lines ih => exact ih (hnext s line h)

/-! ## What no turn changes -/

theorem Turn.aliases {c : Command} {s' : Session} (h : s.Turn c s') : s'.aliases = s.aliases := by
  cases h <;> rfl

theorem Turn.ids {c : Command} {s' : Session} (h : s.Turn c s') : s'.world.ids = s.world.ids := by
  cases h <;> simp [change]

end Session

end TextAdventure
