import Mathlib.Data.List.ReduceOption
import TextAdventure.Proofs.Use

/-!
# What each effect of a use comes to

Every effect sees the room that the ones before it have left. What comes of the whole use is told
here from the room as it was, by counting:

* an item is gone if fewer items of its name lie before it than effects open that name
  (`Item.dropNamed_eq_mapIdx`);
* an effect that opens a name shows its message if fewer effects before it open that name than
  there are items of it, and else it is silent (`UseEffect.lines_applyAll`).

Together with the locks that are cleared, this is all that a use does (`Room.use_told_by_counts`).
-/

namespace TextAdventure

/-! ## Items that are left -/

namespace Item

theorem countP_eraseP (name t : String) (items : List Item) :
    (items.eraseP (·.name = name)).countP (·.name = t) =
      items.countP (·.name = t) - if t = name then 1 else 0 := by
  induction items with
  | nil => simp
  | cons item items ih =>
    by_cases hn : item.name = name
    · rw [List.eraseP_cons_of_pos (by simpa using hn), List.countP_cons]
      by_cases ht : t = name
      · simp [hn, ht]
      · have hne : item.name ≠ t := fun h => ht (h.symm.trans hn)
        simp [hne, ht]
    · rw [List.eraseP_cons_of_neg (by simpa using hn), List.countP_cons, List.countP_cons, ih]
      by_cases ht : t = name
      · subst ht
        simp [hn]
      · simp [ht]

/-- An item is left if at least as many items of its name lie before it as are to be dropped. -/
theorem dropNamed_eq_mapIdx (k : String → Nat) (items : List Item) :
    dropNamed k items =
      (items.mapIdx fun i item =>
        if (items.take i).countP (·.name = item.name) < k item.name then none
        else some item).reduceOption := by
  -- If the first item is dropped, it lies before the others, and one fewer of them is to be dropped.
  induction items generalizing k with
  | nil => rfl
  | cons item items ih =>
    rw [dropNamed, List.mapIdx_cons]
    by_cases hk : k item.name = 0
    · rw [if_pos hk, ih, if_neg (by simp [hk]), List.reduceOption_cons_of_some]
      congr 3
      funext i other
      refine if_congr ?_ rfl rfl
      rw [List.take_succ_cons, List.countP_cons]
      by_cases hn : item.name = other.name
      · simp [← hn, hk]
      · simp [hn]
    · rw [if_neg hk, ih, if_pos (by simp; omega), List.reduceOption_cons_of_none]
      congr 2
      funext i other
      refine if_congr ?_ rfl rfl
      rw [List.take_succ_cons, List.countP_cons]
      by_cases hn : item.name = other.name
      · simp only [← hn, Function.update_self, decide_true, if_true]
        omega
      · have hne : other.name ≠ item.name := fun h => hn h.symm
        simp [hn, Function.update_of_ne hne]

/-- No more items of a name can be dropped than there are. -/
theorem lt_min_countP_iff {items : List Item} {i : Nat} (hi : i < items.length) (n : Nat) :
    (items.take i).countP (·.name = items[i].name) < min n (items.countP (·.name = items[i].name)) ↔
      (items.take i).countP (·.name = items[i].name) < n := by
  have hsplit := congrArg (List.countP (·.name = items[i].name)) (List.take_append_drop i items)
  rw [List.countP_append, List.drop_eq_getElem_cons hi, List.countP_cons_of_pos (by simp)] at hsplit
  omega

end Item

/-! ## Lines that are shown -/

namespace UseEffect

/-- What the effect shows in room `id`, given whether an item that it opens is there. -/
def line? (e : UseEffect) (id : RoomId) (found : Bool) : Option String :=
  if e.room = some id then
    match e.action with
    | .opens => if found then some e.message else none
    | .unlocks => some e.message
    | .other _ => some nothingHappens
  else some nothingHappens

theorem apply_line (e : UseEffect) (room : Room) :
    (e.apply room).1 =
      e.line? room.id (0 < room.items.toList.countP (·.name = e.target)) := by
  unfold apply line? firesIn
  by_cases hf : e.room = some room.id
  · cases e.action with
    | opens =>
      cases ht : room.items.take? e.target with
      | some p =>
        obtain ⟨item, hfind, -⟩ := Option.map_eq_some_iff.1 ht
        have hname := List.find?_some hfind
        have hpos : 0 < room.items.toList.countP (·.name = e.target) :=
          List.countP_pos_iff.2 ⟨item, List.mem_of_find?_eq_some hfind, hname⟩
        simp [hf, hpos]
      | none =>
        have hnone := List.find?_eq_none.1 (Option.map_eq_none_iff.1 ht)
        have hzero : room.items.toList.countP (·.name = e.target) = 0 := List.countP_eq_zero.2 hnone
        simp [hf, hzero]
    | unlocks => simp [hf]
    | other tag => simp [hf]
  · simp [hf]

/-- An effect that has been applied has used up one of the items that it opens. -/
theorem openings_cons_lt_iff (e : UseEffect) (es : List UseEffect) (room : Room) (name : String) :
    openings (e :: es) room.id name < room.items.toList.countP (·.name = name) ↔
      openings es room.id name < (e.apply room).2.items.toList.countP (·.name = name) := by
  rw [openings_cons, apply_room]
  by_cases ho : e.room = some room.id ∧ e.action = .opens
  · rw [if_pos ho]
    simp only [if_pos ho]
    rw [Item.countP_eraseP]
    by_cases hn : name = e.target
    · subst hn
      rw [Function.update_self, if_pos rfl]
      omega
    · rw [Function.update_of_ne hn, if_neg hn, Nat.sub_zero]
  · rw [if_neg ho]
    simp only [if_neg ho]

theorem id_apply (e : UseEffect) (room : Room) : (e.apply room).2.id = room.id := by
  rw [apply_room]

/-- What effects applied one after the other show. -/
theorem lines_applyAll (es : List UseEffect) (room : Room) :
    (applyAll es room).1 =
      (es.mapIdx fun i e => e.line? room.id
        (openings (es.take i) room.id e.target <
          room.items.toList.countP (·.name = e.target))).reduceOption := by
  induction es generalizing room with
  | nil => rfl
  | cons e es ih =>
    have hstep : (applyAll (e :: es) room).1 =
        (e.apply room).1.toList ++ (applyAll es (e.apply room).2).1 := rfl
    have hfirst : openings [] room.id e.target = 0 := rfl
    rw [hstep, apply_line, ih, id_apply, List.mapIdx_cons, List.take_zero, hfirst,
      ← List.singleton_append, List.reduceOption_append, List.reduceOption_singleton]
    congr 3
    funext i later
    rw [List.take_succ_cons, decide_eq_decide.2 (openings_cons_lt_iff e (es.take i) room _)]

/-- The effect that is the `j`th to open its target finds an item if there are `j`. -/
theorem line?_eq_of_counts {es : List UseEffect} {i : Nat} (hi : i < es.length) {id : RoomId}
    (n : Nat) :
    es[i].line? id (openings (es.take i) id es[i].target < n) =
      if es[i].room = some id then
        match es[i].action with
        | .opens =>
          if (es.take (i + 1)).countP (·.Opens id es[i].target) ≤ n then some es[i].message
          else none
        | .unlocks => some es[i].message
        | .other _ => some "Nothing happens."
      else some "Nothing happens." := by
  unfold line?
  by_cases hf : es[i].room = some id
  · cases ha : es[i].action with
    | opens =>
      have hopens : es[i].Opens id es[i].target := ⟨hf, ha, rfl⟩
      have hcount : (es.take (i + 1)).countP (·.Opens id es[i].target) =
          openings (es.take i) id es[i].target + 1 := by
        rw [List.take_succ_eq_append_getElem hi, List.countP_append, List.countP_singleton,
          if_pos (by simpa using hopens)]
        rfl
      simp only [hf, hcount, if_true, decide_eq_true_eq, Nat.succ_le_iff]
    | unlocks => simp [hf]
    | other tag => simp [hf, nothingHappens]
  · simp [hf, nothingHappens]

end UseEffect

/-! ## The use as a whole -/

/-- Using an item without a mapping says so once. Using one with effects takes away the first items
of each name, as many as effects of this room open it and as there are; it clears the locks of the
directions that effects of this room unlock, and changes nothing else. The effects show their lines
in order: an effect of another room and one of an unknown action that nothing happens, one that
unlocks its message, and one that opens a name its message if there is an item left for it. -/
theorem Room.use_told_by_counts (room : Room) :
    room.applyEffects none = (["Nothing happens."], room) ∧
      ∀ effects : UseEffects,
        let es := effects.entries.map Prod.snd
        let items := room.items.toList
        let k (t : String) := es.countP (·.Opens room.id t)
        let c (t : String) := items.countP (·.name = t)
        let room' := (room.applyEffects (some effects)).2
        (room'.items.toList = (items.mapIdx fun i item =>
          if (items.take i).countP (·.name = item.name) < min (k item.name) (c item.name) then none
          else some item).reduceOption) ∧
        (∀ d, room'.path? d = (room.path? d).map fun path =>
          ⟨path.target, path.locked && !decide (∃ e ∈ es, e.Unlocks room.id d)⟩) ∧
        room'.directions = room.directions ∧ room'.id = room.id ∧
        room'.description = room.description ∧ room'.characters = room.characters ∧
        (room.applyEffects (some effects)).1 = (es.mapIdx fun i e =>
          if e.room = some room.id then
            match e.action with
            | .opens =>
              if (es.take (i + 1)).countP (·.Opens room.id e.target) ≤ c e.target then
                some e.message
              else none
            | .unlocks => some e.message
            | .other _ => some "Nothing happens."
          else some "Nothing happens.").reduceOption := by
  refine ⟨rfl, fun effects => ?_⟩
  intro es items k c room'
  have hroom : room' = { room with
      items := ⟨Item.dropNamed (UseEffect.openings es room.id) items⟩
      paths := room.paths.unlockWhere (UseEffect.unlocked es room.id) } :=
    UseEffect.applyAll_room es room
  refine ⟨?_, fun d => ?_, ?_, ?_, ?_, ?_, ?_⟩
  · rw [hroom]
    refine (Item.dropNamed_eq_mapIdx k items).trans ?_
    refine congrArg _ (List.mapIdx_eq_mapIdx_iff.2 fun i hi => ?_)
    exact if_congr (Item.lt_min_countP_iff hi _).symm rfl rfl
  · have hu : UseEffect.unlocked es room.id d = decide (∃ e ∈ es, e.Unlocks room.id d) := by
      rw [Bool.eq_iff_iff, UseEffect.unlocked_eq_true_iff, decide_eq_true_iff]
    rw [hroom, ← hu]
    exact Paths.get?_unlockWhere ..
  · rw [hroom]
    exact List.map_map ..
  · rw [hroom]
  · rw [hroom]
  · rw [hroom]
  · refine (UseEffect.lines_applyAll es room).trans ?_
    refine congrArg _ (List.mapIdx_eq_mapIdx_iff.2 fun i hi => ?_)
    exact UseEffect.line?_eq_of_counts hi _

end TextAdventure
