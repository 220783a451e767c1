import Mathlib.Logic.Function.Basic
import TextAdventure.Session
import TextAdventure.Proofs.Consistency

/-!
# What using an item does to a room

Effects are applied one after the other, but what they come to can be told at once
(`UseEffect.applyAll_room`): of the items of each name the room loses the first ones, as many as
effects of this room open that name, and a path loses its lock if an effect of this room unlocks its
direction. Nothing else about the room changes.
-/

namespace TextAdventure

open Function (update)

/-! ## Removing the first items of a name -/

namespace Item

/-- The items without the first `k name` of each name. -/
def dropNamed (k : String → Nat) : List Item → List Item
  | [] => []
  | item :: items =>
    if k item.name = 0 then item :: dropNamed k items
    else dropNamed (update k item.name (k item.name - 1)) items

/-- The first `k name` items of each name. -/
def takeNamed (k : String → Nat) : List Item → List Item
  | [] => []
  | item :: items =>
    if k item.name = 0 then takeNamed k items
    else item :: takeNamed (update k item.name (k item.name - 1)) items

theorem dropNamed_zero (items : List Item) : dropNamed (fun _ => 0) items = items := by
  induction items with
  | nil => rfl
  | cons item items ih => rw [dropNamed, if_pos rfl, ih]

theorem dropNamed_sublist (k : String → Nat) (items : List Item) :
    (dropNamed k items).Sublist items := by
  induction items generalizing k with
  | nil => exact List.Sublist.slnil
  | cons item items ih =>
    rw [dropNamed]
    split
    · exact (ih k).cons_cons item
    · exact (ih _).cons item

theorem takeNamed_append_dropNamed_perm (k : String → Nat) (items : List Item) :
    (takeNamed k items ++ dropNamed k items).Perm items := by
  induction items generalizing k with
  | nil => exact List.Perm.nil
  | cons item items ih =>
    rw [takeNamed, dropNamed]
    split
    · exact List.perm_middle.trans ((ih k).cons item)
    · exact (ih _).cons item

theorem countP_takeNamed (k : String → Nat) (name : String) (items : List Item) :
    (takeNamed k items).countP (·.name = name) =
      min (k name) (items.countP (·.name = name)) := by
  induction items generalizing k with
  | nil => simp [takeNamed]
  | cons item items ih =>
    rw [takeNamed, List.countP_cons]
    by_cases hn : item.name = name
    · subst hn
      split
      · rename_i hk
        simp [ih, hk]
      · simp only [List.countP_cons, ih, Function.update_self, decide_true, if_true]
        omega
    · have hne : name ≠ item.name := fun e => hn e.symm
      split
      · simp [ih, hn]
      · simp [ih, hn, Function.update_of_ne hne]

/-- Removing the first item of a name beforehand uses up one of the name's number. -/
theorem dropNamed_eraseP (k : String → Nat) (name : String) (items : List Item) :
    dropNamed k (items.eraseP (·.name = name)) =
      dropNamed (update k name (k name + 1)) items := by
  induction items generalizing k with
  | nil => rfl
  | cons item items ih =>
    by_cases hn : item.name = name
    · subst hn
      rw [List.eraseP_cons_of_pos (by simp), dropNamed, Function.update_self,
        if_neg (Nat.succ_ne_zero _), Nat.add_sub_cancel, Function.update_idem,
        Function.update_eq_self]
    · have hne : name ≠ item.name := fun e => hn e.symm
      rw [List.eraseP_cons_of_neg (by simpa using hn), dropNamed, dropNamed,
        Function.update_of_ne hn]
      split
      · rw [ih]
      · rw [ih, Function.update_of_ne hne, Function.update_comm hn]

end Item

/-! ## Clearing locks -/

namespace Paths

/-- The paths with the locks cleared in the directions that satisfy `p`. -/
def unlockWhere (ps : Paths) (p : String → Bool) : Paths where
  entries := ps.entries.map fun entry =>
    (entry.1, { entry.2 with locked := entry.2.locked && !p entry.1 })
  ascending := by
    rw [List.map_map]
    exact ps.ascending

theorem ext {ps qs : Paths} (h : ps.entries = qs.entries) : ps = qs := by
  cases ps
  cases qs
  cases h
  rfl

theorem unlockWhere_false (ps : Paths) : ps.unlockWhere (fun _ => false) = ps := by
  refine ext ((List.map_congr_left fun entry _ => ?_).trans (List.map_id ps.entries))
  simp

theorem unlockWhere_unlockWhere (ps : Paths) (p q : String → Bool) :
    (ps.unlockWhere p).unlockWhere q = ps.unlockWhere fun d => p d || q d := by
  refine ext ?_
  simp only [unlockWhere, List.map_map]
  refine List.map_congr_left fun entry _ => ?_
  simp [Bool.and_assoc, Bool.not_or]

theorem get?_unlockWhere (ps : Paths) (p : String → Bool) (direction : String) :
    (ps.unlockWhere p).get? direction =
      (ps.get? direction).map fun path =>
        { path with locked := path.locked && !p direction } := by
  simp only [get?, unlockWhere]
  induction ps.entries with
  | nil => rfl
  | cons entry rest ih =>
    rw [List.map_cons, List.lookup_cons, List.lookup_cons, ih]
    by_cases h : direction = entry.1
    · subst h
      simp
    · have hne : (direction == entry.1) = false := by simpa using h
      simp [hne]

end Paths

theorem Room.setLocked_false (room : Room) (direction : String) :
    room.setLocked direction false =
      { room with paths := room.paths.unlockWhere (· = direction) } := by
  unfold Room.setLocked Paths.modify Paths.unlockWhere
  congr 2
  refine List.map_congr_left fun entry _ => ?_
  by_cases h : entry.1 = direction <;> simp [h]

/-! ## Effects -/

namespace UseEffect

/-- Removes an item `name` from room `id`, if there is one. -/
def Opens (e : UseEffect) (id : RoomId) (name : String) : Prop :=
  e.room = some id ∧ e.action = .opens ∧ e.target = name

/-- Clears the lock of the path in `direction` of room `id`, if there is one. -/
def Unlocks (e : UseEffect) (id : RoomId) (direction : String) : Prop :=
  e.room = some id ∧ e.action = .unlocks ∧ e.target = direction

instance (e : UseEffect) (id : RoomId) (name : String) : Decidable (e.Opens id name) :=
  inferInstanceAs (Decidable (_ ∧ _))

instance (e : UseEffect) (id : RoomId) (direction : String) : Decidable (e.Unlocks id direction) :=
  inferInstanceAs (Decidable (_ ∧ _))

/-- How many of the effects open `name` in room `id`. -/
def openings (es : List UseEffect) (id : RoomId) (name : String) : Nat :=
  es.countP (·.Opens id name)

/-- One of the effects unlocks `direction` in room `id`. -/
def unlocked (es : List UseEffect) (id : RoomId) (direction : String) : Bool :=
  es.any (·.Unlocks id direction)

theorem unlocked_eq_true_iff {es : List UseEffect} {id : RoomId} {direction : String} :
    unlocked es id direction = true ↔ ∃ e ∈ es, e.Unlocks id direction := by
  simp [unlocked]

theorem openings_cons (e : UseEffect) (es : List UseEffect) (id : RoomId) :
    openings (e :: es) id =
      if e.room = some id ∧ e.action = .opens then
        update (openings es id) e.target (openings es id e.target + 1)
      else openings es id := by
  funext name
  unfold openings
  rw [List.countP_cons]
  by_cases h : e.room = some id ∧ e.action = .opens
  · rw [if_pos h]
    by_cases hn : e.target = name
    · subst hn
      simp [Opens, h]
    · have hne : name ≠ e.target := fun heq => hn heq.symm
      simp [Opens, hn, Function.update_of_ne hne]
  · have hnot : ¬e.Opens id name := fun ho => h ⟨ho.1, ho.2.1⟩
    rw [if_neg h]
    simp [hnot]

/-- What one effect does to a room. -/
theorem apply_room (e : UseEffect) (room : Room) :
    (e.apply room).2 =
      { room with
        items :=
          if e.room = some room.id ∧ e.action = .opens then
            ⟨room.items.toList.eraseP (·.name = e.target)⟩
          else room.items
        paths := room.paths.unlockWhere fun d => e.Unlocks room.id d } := by
  unfold apply firesIn
  by_cases hf : e.room = some room.id
  · cases ha : e.action with
    | opens =>
      have hu : (fun d => decide (e.Unlocks room.id d)) = fun _ => false := by
        simp [Unlocks, ha]
      simp only [hf, decide_true, if_true, true_and, hu, Paths.unlockWhere_false]
      cases ht : room.items.take? e.target with
      | some p =>
        obtain ⟨item, -, rfl⟩ := Option.map_eq_some_iff.1 ht
        rfl
      | none =>
        have hnone := List.find?_eq_none.1 (Option.map_eq_none_iff.1 ht)
        rw [List.eraseP_of_forall_not hnone]
    | unlocks =>
      simp [hf, Unlocks, ha, Room.setLocked_false, eq_comm]
    | other tag =>
      simp [hf, Unlocks, ha, Paths.unlockWhere_false]
  · simp [hf, Unlocks, Paths.unlockWhere_false]

/-- What effects applied one after the other do to a room. -/
theorem applyAll_room (es : List UseEffect) (room : Room) :
    (applyAll es room).2 =
      { room with
        items := ⟨Item.dropNamed (openings es room.id) room.items.toList⟩
        paths := room.paths.unlockWhere (unlocked es room.id) } := by
  induction es generalizing room with
  | nil =>
    have hk : openings [] room.id = fun _ => 0 := rfl
    have hu : unlocked [] room.id = fun _ => false := rfl
    rw [hk, hu, Item.dropNamed_zero, Paths.unlockWhere_false]
    rfl
  | cons e es ih =>
    have hstep : (applyAll (e :: es) room).2 = (applyAll es (e.apply room).2).2 := rfl
    rw [hstep, ih, apply_room]
    simp only [Paths.unlockWhere_unlockWhere, openings_cons]
    split
    · rw [Item.dropNamed_eraseP]
      rfl
    · rfl

end UseEffect

/-- What using an item does to a room. -/
theorem Room.applyEffects_room (room : Room) (item : Item) :
    (room.applyEffects item.effects).2 =
      { room with
        items := ⟨Item.dropNamed (UseEffect.openings item.effectList room.id) room.items.toList⟩
        paths := room.paths.unlockWhere (UseEffect.unlocked item.effectList room.id) } := by
  unfold Room.applyEffects Item.effectList
  cases item.effects with
  | none => exact UseEffect.applyAll_room [] room
  | some effects => exact UseEffect.applyAll_room _ room

end TextAdventure
