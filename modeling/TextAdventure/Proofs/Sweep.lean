import TextAdventure.Proofs.Carrying

/-!
# Picking up all items of a name

To pick up and to put down is the same move: the first item of a name is taken out of one list and
comes to the end of another. Made as often as there are items of the name, the move empties the list
of them and keeps the order of the items that are moved and of those that stay
(`Session.executeAll_of_moves`). So what has been picked up name by name can be put down in its old
order (`Session.sweep_keeps_order`).
-/

namespace TextAdventure

namespace ItemList

variable {l rest : ItemList} {name : String} {item : Item}

/-- The item that is taken is the first of its name, and all others keep their order. -/
theorem filter_of_take? (h : l.take? name = some (item, rest)) :
    l.toList.filter (·.name = name) = item :: rest.toList.filter (·.name = name) ∧
      l.toList.filter (·.name ≠ name) = rest.toList.filter (·.name ≠ name) := by
  obtain ⟨before, after, hl, hbefore, hname, rfl⟩ := take?_eq_some_iff_append.1 h
  have hnone : before.filter (·.name = name) = [] :=
    List.filter_eq_nil_iff.2 fun i hi => by simpa using hbefore i hi
  rw [hl, List.filter_append, List.filter_append, List.filter_append, List.filter_append, hnone,
    List.filter_cons_of_pos (by simpa using hname),
    List.filter_cons_of_neg (by simpa using hname)]
  exact ⟨rfl, rfl⟩

theorem filter_append_of_named {kept moved : List Item} (hkept : ∀ i ∈ kept, i.name ≠ name)
    (hmoved : ∀ i ∈ moved, i.name = name) :
    (kept ++ moved).filter (·.name = name) = moved ∧
      (kept ++ moved).filter (·.name ≠ name) = kept := by
  have kept_named : kept.filter (·.name = name) = [] :=
    List.filter_eq_nil_iff.2 fun i hi => by simpa using hkept i hi
  have kept_others : kept.filter (·.name ≠ name) = kept :=
    List.filter_eq_self.2 fun i hi => by simpa using hkept i hi
  have moved_named : moved.filter (·.name = name) = moved :=
    List.filter_eq_self.2 fun i hi => by simpa using hmoved i hi
  have moved_others : moved.filter (·.name ≠ name) = [] :=
    List.filter_eq_nil_iff.2 fun i hi => by simpa using hmoved i hi
  rw [List.filter_append, List.filter_append, kept_named, kept_others, moved_named, moved_others,
    List.nil_append, List.append_nil]
  exact ⟨rfl, rfl⟩

theorem take?_eq_none_iff_filter : l.take? name = none ↔ l.toList.filter (·.name = name) = [] := by
  rw [take?_eq_none_iff_find?, find?, List.find?_eq_none, List.filter_eq_nil_iff]

end ItemList

namespace Session

variable {s : Session} {room : Room} {name : String} {item : Item} {lying carried rest : ItemList}

/-! ## Many commands -/

/-- Answers commands one after the other. -/
def executeAll (s : Session) : List Command → List Response × Session
  | [] => ([], s)
  | c :: cs =>
    let (answer, s) := s.execute c
    let (answers, s) := s.executeAll cs
    (answer :: answers, s)

theorem executeAll_cons {c : Command} {answer : Response} {s' : Session}
    (h : s.execute c = (answer, s')) (cs : List Command) :
    s.executeAll (c :: cs) = (answer :: (s'.executeAll cs).1, (s'.executeAll cs).2) := by
  simp only [executeAll, h]

/-- A command that changes nothing is answered alike as often as it is given. -/
theorem executeAll_replicate_of_fixed {c : Command} {answer : Response}
    (h : s.execute c = (answer, s)) (k : Nat) :
    s.executeAll (List.replicate k c) = (List.replicate k answer, s) := by
  induction k with
  | zero => rfl
  | succ k ih => rw [List.replicate_succ, executeAll_cons h, ih, List.replicate_succ]

/-- Where a command moves the first item of the name from one list to the end of another, it can be
given as often as there are items of the name. Then all of them are moved, in their order. -/
theorem executeAll_of_moves (name : String) (hold : ItemList → ItemList → Session) {c : Command}
    {answer : Response}
    (hmove : ∀ {l m rest : ItemList} {item : Item}, l.take? name = some (item, rest) →
      (hold l m).execute c = (answer, hold rest (m.push item)))
    (l m : ItemList) :
    let count := l.toList.countP (·.name = name)
    (hold l m).executeAll (List.replicate count c) =
      (List.replicate count answer, hold ⟨l.toList.filter (·.name ≠ name)⟩
        ⟨m.toList ++ l.toList.filter (·.name = name)⟩) := by
  -- Each move leaves one item of the name fewer, so the induction is on their number.
  intro count
  have hcount : (l.toList.filter (·.name = name)).length = count :=
    List.countP_eq_length_filter.symm
  clear_value count
  induction count generalizing l m with
  | zero =>
    have hnone := List.length_eq_zero_iff.1 hcount
    have hall : l.toList.filter (·.name ≠ name) = l.toList :=
      List.filter_eq_self.2 fun i hi => by simpa using List.filter_eq_nil_iff.1 hnone i hi
    rw [hnone, hall, List.append_nil]
    rfl
  | succ count ih =>
    cases htake : l.take? name with
    | none =>
      rw [ItemList.take?_eq_none_iff_filter.1 htake] at hcount
      cases hcount
    | some taken =>
      obtain ⟨item, rest⟩ := taken
      obtain ⟨hnamed, hothers⟩ := ItemList.filter_of_take? htake
      rw [hnamed, List.length_cons, Nat.add_right_cancel_iff] at hcount
      rw [List.replicate_succ, executeAll_cons (hmove htake), ih rest (m.push item) hcount, hnamed,
        hothers, ItemList.toList_push, List.append_assoc, List.singleton_append,
        List.replicate_succ]

/-! ## The two moves -/

/-- The session with these items in the player's room and these carried. -/
def holding (s : Session) (lying carried : ItemList) : Session :=
  s.change (fun room => { room with items := lying }) carried

theorem holding_self (hroom : s.room? = some room) :
    s.holding room.items s.player.inventory = s := by
  have same : s.world.modifyRoom s.player.room (fun old => { old with items := room.items }) =
      s.world := by
    refine (World.modifyRoom_congr fun old hold => ?_).trans (World.modifyRoom_id _ _)
    cases hroom.symm.trans hold
    rfl
  simp only [holding, change, same]

theorem room?_holding (hroom : s.room? = some room) (lying carried : ItemList) :
    (s.holding lying carried).room? = some { room with items := lying } := by
  rw [holding, room?_change, hroom]
  rfl

theorem holding_change (s : Session) (f : Room → Room) (lying carried inventory : ItemList) :
    (s.holding lying carried).change f inventory =
      s.change (fun room => f { room with items := lying }) inventory :=
  change_change ..

theorem execute_get_holding (hroom : s.room? = some room)
    (htake : lying.take? name = some (item, rest)) :
    (s.holding lying carried).execute (.get name) =
      (.say [s!"You picked up the {name}."], s.holding rest (carried.push item)) := by
  have here := room?_holding hroom lying carried
  have state := (turn_execute (s.holding lying carried) (.get name)).eq_of_get here htake
  rw [holding_change] at state
  refine Prod.ext ?_ state
  simp only [execute, get, here, htake]

theorem execute_get_of_none (hroom : s.room? = some room) (htake : room.items.take? name = none) :
    s.execute (.get name) = (.say [s!"There's no {name} here to pick up."], s) := by
  simp only [execute, get, hroom, htake]

theorem execute_drop_holding (hroom : s.room? = some room)
    (htake : carried.take? name = some (item, rest)) :
    (s.holding lying carried).execute (.drop name) =
      (.say [s!"You dropped the {name}."], s.holding (lying.push item) rest) := by
  have here := room?_holding hroom lying carried
  have state := (turn_execute (s.holding lying carried) (.drop name)).eq_of_drop here htake
  rw [holding_change] at state
  refine Prod.ext ?_ state
  simp only [execute, drop, here]
  simp only [holding, change, htake]

/-! ## The sweep -/

/-- In a room that is there, the player can pick up a name as often as the room has items of it.
That leaves the room its other items and adds the items of the name to the end of what is carried,
all in their old order. To pick up the name again changes nothing, and the answer is that there is
none. If nothing of the name was carried at first, the player can put down the name as often; that
restores what was carried and brings the items of the name to the end of the room's, again in
order. -/
theorem sweep_keeps_order (hroom : s.room? = some room) (name : String) :
    let count := room.items.toList.countP (·.name = name)
    let named := room.items.toList.filter (·.name = name)
    let others := room.items.toList.filter (·.name ≠ name)
    let swept := s.change (fun room => { room with items := ⟨others⟩ })
      ⟨s.player.inventory.toList ++ named⟩
    s.executeAll (List.replicate count (.get name)) =
        (List.replicate count (.say [s!"You picked up the {name}."]), swept) ∧
      (∀ k, swept.executeAll (List.replicate k (.get name)) =
        (List.replicate k (.say [s!"There's no {name} here to pick up."]), swept)) ∧
      ((∀ i ∈ s.player.inventory.toList, i.name ≠ name) →
        swept.executeAll (List.replicate count (.drop name)) =
          (List.replicate count (.say [s!"You dropped the {name}."]),
            s.change (fun room => { room with items := ⟨others ++ named⟩ })
              s.player.inventory)) := by
  intro count named others swept
  refine ⟨?_, fun k => ?_, fun hnone => ?_⟩
  · have gets := executeAll_of_moves name s.holding
      (fun htake => execute_get_holding hroom htake) room.items s.player.inventory
    rwa [holding_self hroom] at gets
  · have gone : others.filter (·.name = name) = [] := by
      simp [others, List.filter_filter]
    exact executeAll_replicate_of_fixed (execute_get_of_none (room?_holding hroom _ _)
      (ItemList.take?_eq_none_iff_filter.2 gone)) k
  · have drops := executeAll_of_moves name (fun carried lying => s.holding lying carried)
      (fun htake => execute_drop_holding hroom htake)
      ⟨s.player.inventory.toList ++ named⟩ ⟨others⟩
    have hnamed : ∀ i ∈ named, i.name = name := fun i hi => by simpa using (List.mem_filter.1 hi).2
    obtain ⟨moved, kept⟩ := ItemList.filter_append_of_named hnone hnamed
    have length : named.length = count := List.countP_eq_length_filter.symm
    simp only [List.countP_eq_length_filter, moved, kept, length] at drops
    exact drops

/-- Of the two lamps of a shed the lit one comes first, in the shed, in the hands of a player with a
rope, and in the shed again. -/
theorem lamps_stay_in_order :
    let id : RoomId := ⟨1, by decide, by decide⟩
    let lit := Item.plain "lamp" "It burns."
    let broken := Item.plain "lamp" "It does not."
    let key := Item.plain "key" "A key."
    let rope := Item.plain "rope" "A rope."
    let shed := (((Room.bare id "A shed.").withItem lit).withItem key).withItem broken
    let s : Session := ⟨⟨id, [(id, shed)], by decide⟩, ⟨id, ⟨[rope]⟩⟩, .standard⟩
    let swept := s.change (fun room => { room with items := ⟨[key]⟩ }) ⟨[rope, lit, broken]⟩
    (s.room? = some shed ∧ ∀ i ∈ s.player.inventory.toList, i.name ≠ "lamp") ∧
      s.executeAll [.get "lamp", .get "lamp"] =
        ([.say ["You picked up the lamp."], .say ["You picked up the lamp."]], swept) ∧
      swept.executeAll [.get "lamp"] = ([.say ["There's no lamp here to pick up."]], swept) ∧
      swept.executeAll [.drop "lamp", .drop "lamp"] =
        ([.say ["You dropped the lamp."], .say ["You dropped the lamp."]],
          s.change (fun room => { room with items := ⟨[key, lit, broken]⟩ }) ⟨[rope]⟩) := by
  intro id lit broken key rope shed s swept
  have here : s.room? = some shed := rfl
  have none_carried : ∀ i ∈ s.player.inventory.toList, i.name ≠ "lamp" := by
    simp [s, rope, Item.plain]
  obtain ⟨gets, further, drops⟩ := sweep_keeps_order here "lamp"
  exact ⟨⟨here, none_carried⟩, gets, further 1, drops none_carried⟩

end Session

end TextAdventure
