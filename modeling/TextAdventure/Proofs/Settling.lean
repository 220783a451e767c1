import Mathlib.Logic.Function.Iterate
import TextAdventure.Proofs.Commutation
import TextAdventure.Proofs.Success

/-!
# Using an item over and over

Effects that find nothing to do leave the room alone and show the same lines each time
(`UseEffect.applyAll_of_not_acts`). It comes to that soon: the first use clears all locks that the
effects can clear, and a use that removes no item finds none the next time either. So once there
have been as many uses as there were items, nothing is left to do (`Room.uses_settle`).
-/

namespace TextAdventure

/-! ## Effects with nothing to do -/

namespace UseEffect

variable {e : UseEffect} {es : List UseEffect} {room : Room}

theorem countP_eq_zero_of_not_acts (h : ¬e.Acts room)
    (ho : e.room = some room.id ∧ e.action = .opens) :
    room.items.toList.countP (·.name = e.target) = 0 := by
  apply List.countP_eq_zero.2
  intro item hitem hname
  exact h ⟨ho.1, .inl ⟨ho.2, item, hitem, by simpa using hname⟩⟩

theorem apply_of_not_acts (h : ¬e.Acts room) : e.apply room = (e.line? room.id false, room) := by
  apply Prod.ext
  · rw [apply_line]
    by_cases ho : e.room = some room.id ∧ e.action = .opens
    · rw [countP_eq_zero_of_not_acts h ho]
      rfl
    · -- Only an effect that opens something minds whether it is there.
      unfold line?
      by_cases hf : e.room = some room.id
      · cases ha : e.action with
        | opens => exact absurd ⟨hf, ha⟩ ho
        | unlocks => rfl
        | other tag => rfl
      · rw [if_neg hf, if_neg hf]
  · have items : (if e.room = some room.id ∧ e.action = .opens then
        ⟨room.items.toList.eraseP (·.name = e.target)⟩ else room.items) = room.items := by
      split
      · rename_i ho
        have hnone := List.countP_eq_zero.1 (countP_eq_zero_of_not_acts h ho)
        rw [List.eraseP_of_forall_not hnone]
      · rfl
    have paths : (room.paths.unlockWhere fun d => e.Unlocks room.id d) = room.paths := by
      rw [Paths.unlockWhere_eq_self_iff]
      intro direction path hp hlock
      apply decide_eq_false
      rintro ⟨hf, ha, rfl⟩
      exact h ⟨hf, .inr ⟨ha, path, hp, hlock⟩⟩
    rw [apply_room, items, paths]

theorem applyAll_of_not_acts (h : ∀ e ∈ es, ¬e.Acts room) :
    applyAll es room = (es.filterMap (·.line? room.id false), room) := by
  induction es with
  | nil => rfl
  | cons e es ih =>
    obtain ⟨here, later⟩ := List.forall_mem_cons.1 h
    simp only [applyAll, apply_of_not_acts here, ih later]
    cases hline : e.line? room.id false <;> simp [hline]

/-! ## Many uses -/

theorem iterate_applyAll (es : List UseEffect) (k : Nat) (room : Room) :
    (fun room => (applyAll es room).2)^[k] room =
      (applyAll (List.replicate k es).flatten room).2 := by
  induction k generalizing room with
  | zero => rfl
  | succ k ih =>
    rw [Function.iterate_succ_apply, ih, List.replicate_succ, List.flatten_cons, applyAll_append]

theorem openings_flatten_replicate (k : Nat) (es : List UseEffect) (id : RoomId) (name : String) :
    openings (List.replicate k es).flatten id name = k * openings es id name := by
  rw [openings, List.countP_flatten, List.map_replicate, List.sum_replicate_nat]
  rfl

end UseEffect

/-- What is left of a name when the first `k name` items of each name are removed. -/
theorem Item.countP_dropNamed (k : String → Nat) (name : String) (items : List Item) :
    (dropNamed k items).countP (·.name = name) = items.countP (·.name = name) - k name := by
  have split := (takeNamed_append_dropNamed_perm k items).countP_eq (·.name = name)
  rw [List.countP_append, countP_takeNamed] at split
  omega

namespace UseEffect

/-- After as many uses as the room had items, and at least one, no effect finds anything to do. -/
theorem not_acts_of_many {e : UseEffect} {es : List UseEffect} (he : e ∈ es) {room : Room} {k : Nat}
    (hone : 1 ≤ k) (hmany : room.items.size ≤ k) :
    ¬e.Acts (applyAll (List.replicate k es).flatten room).2 := by
  rw [applyAll_room]
  rintro ⟨hf, ⟨ha, item, hitem, hname⟩ | ⟨ha, path, hp, hlock⟩⟩
  · -- Each use opens the target at least once, so by now that is more than there ever was of it.
    have hopens : 1 ≤ openings es room.id e.target :=
      List.one_le_countP_iff.2 ⟨e, he, by simpa using ⟨hf, ha, rfl⟩⟩
    have henough : k * 1 ≤ k * openings es room.id e.target := Nat.mul_le_mul_left k hopens
    have hsize : room.items.toList.countP (·.name = e.target) ≤ room.items.size :=
      List.countP_le_length
    have hleft : 0 < (Item.dropNamed (openings (List.replicate k es).flatten room.id)
        room.items.toList).countP (·.name = e.target) :=
      List.countP_pos_iff.2 ⟨item, hitem, by simpa using hname⟩
    rw [Item.countP_dropNamed, openings_flatten_replicate] at hleft
    omega
  · have hmem : e ∈ (List.replicate k es).flatten :=
      List.mem_flatten.2 ⟨es, List.mem_replicate.2 ⟨by omega, rfl⟩, he⟩
    have hunlocked : unlocked (List.replicate k es).flatten room.id e.target = true :=
      unlocked_eq_true_iff.2 ⟨e, hmem, hf, ha, rfl⟩
    have hpath : (room.paths.unlockWhere (unlocked (List.replicate k es).flatten room.id)).get?
        e.target = some path := hp
    rw [Paths.get?_unlockWhere, hunlocked] at hpath
    obtain ⟨old, -, rfl⟩ := Option.map_eq_some_iff.1 hpath
    simp at hlock

end UseEffect

namespace Room

/-- A use adds no item, and a path that is locked after it was locked before. -/
theorem applyEffects_room_le (room : Room) (m : Option UseEffects) :
    (room.applyEffects m).2.items.toList.Sublist room.items.toList ∧
      ∀ direction path, (room.applyEffects m).2.path? direction = some path →
        path.locked = true → room.path? direction = some path := by
  rw [applyEffects_eq_applyAll, UseEffect.applyAll_room]
  refine ⟨Item.dropNamed_sublist _ _, fun direction path hp hlock => ?_⟩
  have hget := (Paths.get?_unlockWhere ..).symm.trans hp
  obtain ⟨old, hold, rfl⟩ := Option.map_eq_some_iff.1 hget
  have hkept : UseEffect.unlocked (UseEffects.listed m) room.id direction = false := by
    simp only [Bool.and_eq_true, Bool.not_eq_true'] at hlock
    exact hlock.2
  rw [hkept, Bool.not_false, Bool.and_true]
  exact hold

/-- When the effects have been applied once, and as often as the room had items, they change the
room no more, and from then on each application shows the same lines: that nothing happens for an
effect of another room, or of no room, and for one of an unknown action; the message for one that
unlocks, and no line for one that opens; or once that nothing happens if there is no mapping. No
application ever adds an item or locks a path. -/
theorem uses_settle (room : Room) (m : Option UseEffects) :
    let use (room : Room) := (room.applyEffects m).2
    let settled := use^[max 1 room.items.size] room
    (∀ k, use^[k] settled = settled ∧
      ((use^[k] settled).applyEffects m).1 =
        match m with
        | none => ["Nothing happens."]
        | some effects => (effects.entries.map Prod.snd).filterMap fun e =>
          if e.room = some room.id then
            match e.action with
            | .opens => none
            | .unlocks => some e.message
            | .other _ => some "Nothing happens."
          else some "Nothing happens.") ∧
      ∀ room' : Room, (use room').items.toList.Sublist room'.items.toList ∧
        ∀ direction path, (use room').path? direction = some path →
          path.locked = true → room'.path? direction = some path := by
  intro use settled
  have huse : use = fun room => (UseEffect.applyAll (UseEffects.listed m) room).2 := by
    funext room
    exact congrArg Prod.snd (room.applyEffects_eq_applyAll m)
  have hsettled : settled = (UseEffect.applyAll (List.replicate (max 1 room.items.size)
      (UseEffects.listed m)).flatten room).2 := by
    simp only [settled, huse, UseEffect.iterate_applyAll]
  have hquiet : ∀ e ∈ UseEffects.listed m, ¬e.Acts settled := by
    intro e he
    rw [hsettled]
    exact UseEffect.not_acts_of_many he (Nat.le_max_left ..) (Nat.le_max_right ..)
  have hid : settled.id = room.id := by
    rw [hsettled, UseEffect.applyAll_room]
  have hagain := UseEffect.applyAll_of_not_acts hquiet
  have hfixed (k : Nat) : use^[k] settled = settled := by
    apply Function.iterate_fixed
    rw [huse]
    exact congrArg Prod.snd hagain
  refine ⟨fun k => ⟨hfixed k, ?_⟩, fun room' => room'.applyEffects_room_le m⟩
  rw [hfixed, applyEffects_eq_applyAll, hagain, hid]
  cases m with
  | none => rfl
  | some effects => rfl

end Room

end TextAdventure
