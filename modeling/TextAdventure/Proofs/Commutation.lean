import TextAdventure.Proofs.Effects
import TextAdventure.Proofs.Turn

/-!
# Uses in any order

The room that uses lead to is told by counts of effects, and counts do not see an order. So using
items in another order, or with their effects in another order, leads to the same room
(`Room.applyInTurn_of_rearranged`). The lines may be others, but there are as many: each effect
shows one, except for those that open what is not there, and each that opens what is there takes
away an item (`UseEffect.length_applyAll`).
-/

namespace TextAdventure

/-! ## Effects in another order -/

namespace UseEffect

variable {es es' : List UseEffect}

theorem applyAll_append (es es' : List UseEffect) (room : Room) :
    applyAll (es ++ es') room =
      ((applyAll es room).1 ++ (applyAll es' (applyAll es room).2).1,
        (applyAll es' (applyAll es room).2).2) := by
  induction es generalizing room with
  | nil => rfl
  | cons e es ih => simp [applyAll, ih]

theorem openings_of_perm (h : es.Perm es') (id : RoomId) : openings es id = openings es' id :=
  funext fun _ => h.countP_eq _

theorem unlocked_of_perm (h : es.Perm es') (id : RoomId) : unlocked es id = unlocked es' id :=
  funext fun _ => h.any_eq

theorem room_applyAll_of_perm (h : es.Perm es') (room : Room) :
    (applyAll es room).2 = (applyAll es' room).2 := by
  rw [applyAll_room, applyAll_room, openings_of_perm h, unlocked_of_perm h]

/-- An effect shows a line or finds nothing to open; when it opens something, an item is gone. -/
theorem length_apply (e : UseEffect) (room : Room) :
    (e.apply room).1.toList.length + (e.apply room).2.items.size +
        (if e.Opens room.id e.target then 1 else 0) =
      room.items.size + 1 := by
  rw [apply_line, apply_room]
  by_cases ho : e.room = some room.id ∧ e.action = .opens
  · have hopens : e.Opens room.id e.target := ⟨ho.1, ho.2, rfl⟩
    have hlength := List.length_eraseP (p := (·.name = e.target)) (l := room.items.toList)
    simp only [if_pos ho, if_pos hopens, ItemList.size, hlength]
    by_cases hany : room.items.toList.any (·.name = e.target) = true
    · have hpos : 0 < room.items.toList.countP (·.name = e.target) := by
        simpa [List.countP_pos_iff] using hany
      have hsize : 0 < room.items.toList.length := Nat.lt_of_lt_of_le hpos List.countP_le_length
      simp [line?, ho, hpos, hany]
      omega
    · have hzero : room.items.toList.countP (·.name = e.target) = 0 := by
        simpa [List.countP_eq_zero] using hany
      simp [line?, ho, hzero, hany]
  · have hnot : ¬e.Opens room.id e.target := fun h => ho ⟨h.1, h.2.1⟩
    have hline (found : Bool) : (e.line? room.id found).toList.length = 1 := by
      unfold line?
      by_cases hf : e.room = some room.id
      · cases ha : e.action with
        | opens => exact absurd ⟨hf, ha⟩ ho
        | unlocks => simp [hf]
        | other tag => simp [hf]
      · simp [hf]
    simp only [if_neg ho, if_neg hnot, hline]
    omega

/-- How many lines effects show is told by how many items they leave. -/
theorem length_applyAll (es : List UseEffect) (room : Room) :
    (applyAll es room).1.length + (applyAll es room).2.items.size +
        es.countP (fun e => e.Opens room.id e.target) =
      room.items.size + es.length := by
  induction es generalizing room with
  | nil => simp [applyAll]
  | cons e es ih =>
    have hfirst := length_apply e room
    have hrest := ih (e.apply room).2
    rw [id_apply] at hrest
    simp only [applyAll, List.length_append, List.countP_cons, List.length_cons, decide_eq_true_eq]
    omega

theorem length_lines_applyAll_of_perm (h : es.Perm es') (room : Room) :
    (applyAll es room).1.length = (applyAll es' room).1.length := by
  have hlength := length_applyAll es room
  have hlength' := length_applyAll es' room
  rw [room_applyAll_of_perm h, h.countP_eq, h.length_eq] at hlength
  omega

/-- An effect of no room, of which nothing comes. -/
def inert : UseEffect :=
  ⟨none, "", .other "", ""⟩

end UseEffect

/-! ## Mappings in another order -/

/-- The effects of a mapping. Using an item without one is like using one with an inert effect. -/
def UseEffects.listed : Option UseEffects → List UseEffect
  | none => [.inert]
  | some effects => effects.entries.map Prod.snd

theorem Room.applyEffects_eq_applyAll (room : Room) (m : Option UseEffects) :
    room.applyEffects m = UseEffect.applyAll (UseEffects.listed m) room := by
  cases m <;> rfl

/-- Applies mappings one after the other, and shows all their lines. -/
def Room.applyInTurn (room : Room) : List (Option UseEffects) → List String × Room
  | [] => ([], room)
  | m :: ms =>
    let (lines, room) := room.applyEffects m
    let (more, room) := room.applyInTurn ms
    (lines ++ more, room)

theorem Room.applyInTurn_eq_applyAll (room : Room) (ms : List (Option UseEffects)) :
    room.applyInTurn ms = UseEffect.applyAll (ms.flatMap UseEffects.listed) room := by
  induction ms generalizing room with
  | nil => rfl
  | cons m ms ih =>
    rw [List.flatMap_cons, UseEffect.applyAll_append, Room.applyInTurn, applyEffects_eq_applyAll]
    simp only [ih]

/-- Both are absent, or they have the same entries, in any order. -/
def UseEffects.SameEntries : Option UseEffects → Option UseEffects → Prop :=
  Option.Rel fun effects effects' => effects.entries.Perm effects'.entries

/-- The mappings are the same, in another order and each with its entries in another order. -/
def UseEffects.Rearranged (ms ms' : List (Option UseEffects)) : Prop :=
  ∃ permuted, ms.Perm permuted ∧ List.Forall₂ SameEntries permuted ms'

namespace UseEffects

variable {m m' : Option UseEffects} {ms ms' : List (Option UseEffects)}

theorem SameEntries.perm_listed (h : SameEntries m m') : (listed m).Perm (listed m') := by
  cases h with
  | none => exact List.Perm.refl _
  | some h => exact h.map _

theorem sameEntries_refl (ms : List (Option UseEffects)) : List.Forall₂ SameEntries ms ms := by
  induction ms with
  | nil => exact .nil
  | cons m ms ih =>
    refine .cons ?_ ih
    cases m with
    | none => exact .none
    | some effects => exact .some (List.Perm.refl _)

theorem Rearranged.perm_listed (h : Rearranged ms ms') :
    (ms.flatMap listed).Perm (ms'.flatMap listed) := by
  obtain ⟨permuted, hperm, hsame⟩ := h
  refine (hperm.flatMap_right listed).trans ?_
  clear hperm
  induction hsame with
  | nil => exact List.Perm.refl _
  | cons hm _ ih => exact hm.perm_listed.append ih

end UseEffects

namespace Room

theorem applyInTurn_of_rearranged {ms ms' : List (Option UseEffects)}
    (h : UseEffects.Rearranged ms ms') (room : Room) :
    (room.applyInTurn ms).2 = (room.applyInTurn ms').2 ∧
      (room.applyInTurn ms).1.length = (room.applyInTurn ms').1.length := by
  rw [applyInTurn_eq_applyAll, applyInTurn_eq_applyAll]
  exact ⟨UseEffect.room_applyAll_of_perm h.perm_listed room,
    UseEffect.length_lines_applyAll_of_perm h.perm_listed room⟩

theorem applyEffects_comm (room : Room) (m m' : Option UseEffects) :
    ((room.applyEffects m).2.applyEffects m').2 = ((room.applyEffects m').2.applyEffects m).2 := by
  have hswap : UseEffects.Rearranged [m, m'] [m', m] :=
    ⟨[m', m], List.Perm.swap m' m [], UseEffects.sameEntries_refl _⟩
  exact (applyInTurn_of_rearranged hswap room).1

end Room

/-! ## Uses by the player -/

namespace World

variable {w : World} {id : RoomId} {f g : Room → Room}

theorem ext_rooms {w w' : World} (hstart : w.startingRoom = w'.startingRoom)
    (hrooms : w.rooms = w'.rooms) : w = w' := by
  cases w
  cases w'
  cases hstart
  cases hrooms
  rfl

/-- What a change would make of rooms that are not there does not matter. -/
theorem modifyRoom_congr (h : ∀ room, w.room? id = some room → f room = g room) :
    w.modifyRoom id f = w.modifyRoom id g := by
  refine ext_rooms rfl (List.map_congr_left fun entry he => ?_)
  by_cases hid : entry.1 = id
  · subst hid
    rw [if_pos rfl, if_pos rfl, h _ (room?_eq_some_iff.2 he)]
  · rw [if_neg hid, if_neg hid]

theorem modifyRoom_id (w : World) (id : RoomId) : w.modifyRoom id (fun room => room) = w := by
  refine ext_rooms rfl ((List.map_congr_left fun entry _ => ?_).trans (List.map_id _))
  split <;> rfl

theorem modifyRoom_modifyRoom (w : World) (id : RoomId) (f g : Room → Room) :
    (w.modifyRoom id f).modifyRoom id g = w.modifyRoom id fun room => g (f room) := by
  refine ext_rooms rfl ((List.map_map ..).trans (List.map_congr_left fun entry _ => ?_))
  by_cases hid : entry.1 = id <;> simp [hid]

end World

namespace Session

/-- What the use of the first carried item of this name makes of a room. -/
def roomAfterUse (s : Session) (name : String) (room : Room) : Room :=
  match s.player.inventory.find? name with
  | none => room
  | some item => (room.applyEffects item.effects).2

theorem use_eq_modifyRoom (s : Session) (name : String) :
    (s.use name).2 = s.modifyRoom (s.roomAfterUse name) := by
  cases hfind : s.player.inventory.find? name with
  | none =>
    have hsame : s.roomAfterUse name = fun room => room := by
      funext room
      simp [roomAfterUse, hfind]
    rw [hsame, modifyRoom, World.modifyRoom_id]
    simp [use, hfind]
  | some item =>
    have hafter : s.roomAfterUse name = fun room => (room.applyEffects item.effects).2 := by
      funext room
      simp [roomAfterUse, hfind]
    rw [hafter]
    cases hroom : s.room? with
    | none =>
      have hnone : s.world.modifyRoom s.player.room
          (fun room => (room.applyEffects item.effects).2) = s.world := by
        refine (World.modifyRoom_congr fun room hr => ?_).trans (World.modifyRoom_id _ _)
        cases hroom.symm.trans hr
      simp [use, hfind, hroom, modifyRoom, hnone]
    | some room =>
      have hhere : s.world.modifyRoom s.player.room
          (fun _ => (room.applyEffects item.effects).2) =
          s.world.modifyRoom s.player.room fun room => (room.applyEffects item.effects).2 := by
        refine World.modifyRoom_congr fun room' hr => ?_
        cases hroom.symm.trans hr
        rfl
      simp [use, hfind, hroom, modifyRoom, hhere]

theorem use_use (s : Session) (x y : String) :
    ((s.use x).2.use y).2 = s.modifyRoom fun room => s.roomAfterUse y (s.roomAfterUse x room) := by
  rw [use_eq_modifyRoom, use_eq_modifyRoom, modifyRoom, modifyRoom, modifyRoom]
  exact congrArg (fun world => { s with world }) (World.modifyRoom_modifyRoom ..)

theorem roomAfterUse_comm (s : Session) (x y : String) (room : Room) :
    s.roomAfterUse y (s.roomAfterUse x room) = s.roomAfterUse x (s.roomAfterUse y room) := by
  unfold roomAfterUse
  cases s.player.inventory.find? x with
  | none => rfl
  | some item =>
    cases s.player.inventory.find? y with
    | none => rfl
    | some item' => exact room.applyEffects_comm _ _

/-- Mappings applied to a room one after the other lead to the same room in any order, and with
their entries in any order, and they show as many lines. So it does not matter to the world and the
player which of two items is used first. -/
theorem uses_commute :
    (∀ ms ms', UseEffects.Rearranged ms ms' → ∀ room : Room,
        (room.applyInTurn ms).2 = (room.applyInTurn ms').2 ∧
          (room.applyInTurn ms).1.length = (room.applyInTurn ms').1.length) ∧
      ∀ (s : Session) (x y : String),
        ((s.execute (.use x)).2.execute (.use y)).2 =
          ((s.execute (.use y)).2.execute (.use x)).2 := by
  refine ⟨fun ms ms' h => Room.applyInTurn_of_rearranged h, fun s x y => ?_⟩
  change ((s.use x).2.use y).2 = ((s.use y).2.use x).2
  rw [use_use, use_use]
  exact congrArg s.modifyRoom (funext (s.roomAfterUse_comm x y))

/-- A bar and a key for the one crate of a cell: whichever comes first has its say about the crate,
and the cell is left in the same state. -/
theorem crate_opened_in_either_order :
    let cell := ((Room.bare ⟨1, by decide, by decide⟩ "A cell.").withPath "out"
      ⟨⟨1, by decide, by decide⟩, true⟩).withItem (.plain "crate" "Nailed shut.")
    let bar := UseEffects.ofList [("pry", ⟨some cell.id, "crate", .opens, "It cracks."⟩)]
    let key := UseEffects.ofList
      [("turn", ⟨some cell.id, "crate", .opens, "It clicks."⟩),
        ("door", ⟨some cell.id, "out", .unlocks, "The way out is free."⟩)]
    let shuffled := UseEffects.ofList
      [("door", ⟨some cell.id, "out", .unlocks, "The way out is free."⟩),
        ("turn", ⟨some cell.id, "crate", .opens, "It clicks."⟩)]
    let first := cell.applyInTurn [some bar, none, some key]
    let second := cell.applyInTurn [some shuffled, some bar, none]
    UseEffects.Rearranged [some bar, none, some key] [some shuffled, some bar, none] ∧
      first.1 = ["It cracks.", "Nothing happens.", "The way out is free."] ∧
      second.1 = ["The way out is free.", "It clicks.", "Nothing happens."] ∧
      first.2 = second.2 ∧ first.1.length = second.1.length := by
  intro cell bar key shuffled first second
  have rearranged :
      UseEffects.Rearranged [some bar, none, some key] [some shuffled, some bar, none] :=
    ⟨[some key, some bar, none], by decide +kernel,
      .cons (.some (by decide +kernel)) (UseEffects.sameEntries_refl _)⟩
  exact ⟨rearranged, by decide +kernel, by decide +kernel, uses_commute.1 _ _ rearranged cell⟩

end Session

end TextAdventure
