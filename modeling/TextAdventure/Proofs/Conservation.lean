import Mathlib.Algebra.Order.Group.Multiset
import Mathlib.Tactic.Abel
import TextAdventure.Proofs.Soundness

/-!
# No item is lost or doubled

All items of a session are those that lie in its rooms and those that are carried. A turn moves items
between the two, and only the use of a carried item takes any away: from the player's room, and of
each name as many as the item opens there, as far as there are so many
(`Session.items_change_only_by_use`).
-/

namespace TextAdventure

/-! ## All items of a world -/

/-- The items that lie in the rooms. -/
def World.items (w : World) : Multiset Item :=
  (w.rooms.flatMap fun entry => entry.2.items.toList : List Item)

/-- A change of one room changes the items of the world by those of this room. -/
theorem World.exists_items_eq {w : World} {id : RoomId} {room : Room}
    (h : w.room? id = some room) :
    ∃ others : Multiset Item, w.items = others + room.items.toList ∧
      ∀ f : Room → Room, (w.modifyRoom id f).items = others + (f room).items.toList := by
  obtain ⟨before, after, hrooms, hmodify⟩ := World.exists_rooms_eq h
  let itemsOf (entries : List (RoomId × Room)) : List Item :=
    entries.flatMap fun entry => entry.2.items.toList
  have split (room : Room) : ((itemsOf (before ++ (id, room) :: after) : List Item) : Multiset Item) =
      (itemsOf before ++ itemsOf after : List Item) + room.items.toList := by
    simp only [itemsOf, List.flatMap_append, List.flatMap_cons, ← Multiset.coe_add]
    abel
  refine ⟨(itemsOf before ++ itemsOf after : List Item), ?_, fun f => ?_⟩
  · rw [World.items, hrooms]
    exact split room
  · rw [World.items, hmodify]
    exact split (f room)

namespace ItemList

theorem coe_push (l : ItemList) (item : Item) :
    ((l.push item).toList : Multiset Item) = item ::ₘ l.toList := by
  rw [toList_push, ← Multiset.coe_add, Multiset.coe_singleton, add_comm, Multiset.singleton_add]

theorem coe_of_take? {l rest : ItemList} {name : String} {item : Item}
    (h : l.take? name = some (item, rest)) :
    (l.toList : Multiset Item) = item ::ₘ rest.toList :=
  Multiset.coe_eq_coe.2 (perm_of_take? h)

end ItemList

namespace Session

variable {s s' : Session}

/-- All items: those that lie in the rooms and those that are carried. -/
def items (s : Session) : Multiset Item :=
  s.world.items + s.player.inventory.toList

theorem exists_items_eq {room : Room} (hroom : s.room? = some room) :
    ∃ others : Multiset Item,
      s.items = others + room.items.toList + s.player.inventory.toList ∧
        ∀ (f : Room → Room) (inventory : ItemList),
          (s.change f inventory).items = others + (f room).items.toList + inventory.toList := by
  obtain ⟨others, hitems, hchange⟩ := World.exists_items_eq hroom
  refine ⟨others, ?_, fun f inventory => ?_⟩
  · rw [items, hitems]
  · rw [items, change, hchange]

/-- Moving items between the player's room and the inventory keeps all items. -/
theorem items_change {room : Room} (hroom : s.room? = some room) {f : Room → Room}
    {inventory : ItemList}
    (h : (room.items.toList : Multiset Item) + s.player.inventory.toList =
      (f room).items.toList + inventory.toList) : (s.change f inventory).items = s.items := by
  obtain ⟨others, hitems, hchange⟩ := exists_items_eq hroom
  rw [hitems, hchange, add_assoc, add_assoc, h]

/-! ## Turns -/

/-- Using a carried item removes, of each name, as many items of the room as it opens there. -/
theorem exists_removed_by_use {room : Room} (hroom : s.room? = some room) (item : Item) :
    ∃ removed : Multiset Item,
      let room' := (room.applyEffects item.effects).2
      s.items = removed + (s.change (fun _ => room') s.player.inventory).items ∧
        (room.items.toList : Multiset Item) = removed + room'.items.toList ∧
        ∀ name, removed.countP (·.name = name) =
          min (UseEffect.openings item.effectList room.id name)
            (room.items.toList.countP (·.name = name)) := by
  let k := UseEffect.openings item.effectList room.id
  obtain ⟨others, hitems, hchange⟩ := exists_items_eq hroom
  have hsplit : (room.items.toList : Multiset Item) =
      Item.takeNamed k room.items.toList + Item.dropNamed k room.items.toList :=
    (Multiset.coe_eq_coe.2 (Item.takeNamed_append_dropNamed_perm k _)).symm
  refine ⟨Item.takeNamed k room.items.toList, ?_, ?_, fun name => ?_⟩
  · rw [hchange, hitems, hsplit, Room.applyEffects_room]
    abel
  · rw [Room.applyEffects_room]
    exact hsplit
  · rw [Multiset.coe_countP]
    exact Item.countP_takeNamed k name _

/-- Every turn but the use of a carried item keeps all items. -/
theorem Turn.items_eq {c : Command} (ht : s.Turn c s')
    (hc : ∀ name, c = .use name → s.player.inventory.find? name = none) : s'.items = s.items := by
  cases ht with
  | move => rfl
  | pick hroom htake =>
    refine items_change hroom ?_
    rw [ItemList.coe_of_take? htake, ItemList.coe_push, Multiset.cons_add, Multiset.add_cons]
  | put hroom htake =>
    refine items_change hroom ?_
    rw [ItemList.coe_of_take? htake, ItemList.coe_push, Multiset.cons_add, Multiset.add_cons]
  | use hroom hfind => cases (hc _ rfl).symm.trans hfind
  | idle => rfl

theorem Turn.items_le {c : Command} (ht : s.Turn c s') : s'.items ≤ s.items := by
  by_cases hc : ∀ name, c = .use name → s.player.inventory.find? name = none
  · exact (ht.items_eq hc).le
  · simp only [not_forall] at hc
    obtain ⟨name, rfl, hfind⟩ := hc
    cases ht with
    | use hroom hfind =>
      obtain ⟨removed, hitems, -⟩ := exists_removed_by_use hroom _
      exact hitems ▸ Multiset.le_add_left _ _
    | idle => exact le_rfl

theorem items_run_le (s : Session) (lines : List String) : (s.run lines).items ≤ s.items :=
  run_of_next (P := fun s' => s'.items ≤ s.items)
    (fun s' line h => (turn_next s' line).items_le.trans h) le_rfl lines

/-- A use leaves what is carried as it is, and in order. -/
theorem Turn.inventory_of_use {name : String} (ht : s.Turn (.use name) s') :
    s'.player.inventory = s.player.inventory := by
  cases ht <;> rfl

/-- In every turn of every play, all items stay unless a carried item is used. Its use removes items
from the player's room only: of each name as many as it has effects that open that name there, or all
if there are fewer. Nothing is ever added, and a use leaves the inventory alone. -/
theorem items_change_only_by_use {d : Document} {w : World} (h : World.ofDocument d = .ok w)
    (aliases : AliasTable) (lines : List String) (line : String) :
    let s := (start w aliases).run lines
    let s' := s.next line
    ((∀ name, s.command line = .use name → s.player.inventory.find? name = none) →
        s'.items = s.items) ∧
      (∀ name item, s.command line = .use name → s.player.inventory.find? name = some item →
        ∃ room room' removed, s.room? = some room ∧ s'.room? = some room' ∧
          s.items = removed + s'.items ∧
          (room.items.toList : Multiset Item) = removed + room'.items.toList ∧
          (∀ id, id ≠ s.player.room → s'.world.room? id = s.world.room? id) ∧
          ∀ t, removed.countP (·.name = t) =
            min (item.effectList.countP fun e =>
                e.room = some s.player.room ∧ e.action = .opens ∧ e.target = t)
              (room.items.toList.countP (·.name = t))) ∧
      (∀ name, s.command line = .use name → s'.player.inventory = s.player.inventory) ∧
      s'.items ≤ s.items ∧ s.items ≤ (start w aliases).items := by
  intro s s'
  have hs : s.Sound := sound_play h aliases lines
  have ht : s.Turn (s.command line) s' := turn_next s line
  refine ⟨ht.items_eq, fun name item hc hfind => ?_, fun name hc => ?_, ht.items_le,
    items_run_le _ lines⟩
  · obtain ⟨room, hroom⟩ := hs.exists_room
    obtain ⟨removed, hitems, hsplit, hcount⟩ := exists_removed_by_use hroom item
    have hs' := Turn.eq_of_use (hc ▸ ht) hroom hfind
    rw [hs.id_room hroom] at hcount
    refine ⟨room, (room.applyEffects item.effects).2, removed, hroom, ?_, hs' ▸ hitems, hsplit,
      fun id hid => ?_, hcount⟩
    · rw [hs', room?_change, hroom]
      rfl
    · rw [hs']
      exact world_room?_change_of_ne hid _ _
  · exact Turn.inventory_of_use (hc ▸ ht)

theorem crowbar_removes_crate :
    World.ofDocument .sample = .ok .sample ∧
      ∃ removed,
        ((start .sample .standard).run
            ["get key", "use key", "e", "get crowbar", "w", "n"]).items =
          removed + ((start .sample .standard).run
            ["get key", "use key", "e", "get crowbar", "w", "n", "use crowbar"]).items ∧
        removed.countP (·.name = "old crate") = 1 := by
  let s := (start .sample .standard).run ["get key", "use key", "e", "get crowbar", "w", "n"]
  have carried : (s.player.inventory.find? "crowbar").isSome = true := by decide +kernel
  obtain ⟨room, -, removed, hroom, -, hitems, -, -, hcount⟩ :=
    (items_change_only_by_use World.ofDocument_sample .standard
      ["get key", "use key", "e", "get crowbar", "w", "n"] "use crowbar").2.1 "crowbar"
      ((s.player.inventory.find? "crowbar").get carried) (by decide +kernel)
      (Option.some_get carried).symm
  have crates : s.room?.map (·.items.toList.countP (·.name = "old crate")) = some 1 := by
    decide +kernel
  rw [hroom, Option.map_some, Option.some.injEq] at crates
  refine ⟨World.ofDocument_sample, removed, hitems, (hcount "old crate").trans ?_⟩
  rw [crates]
  clear hcount hitems
  revert carried
  decide +kernel

end Session

end TextAdventure
