import Mathlib.Data.Multiset.AddSub
import TextAdventure.Proofs.Commutation
import TextAdventure.Proofs.Names

/-!
# Picking up and putting down

A full command typed as its text is that command under the standard aliases
(`Session.command_text`). To pick up an item and put down one of the same name moves the item to the
end of the room's items, unless another one of this name was carried before: then the two change
places (`Session.get_then_drop`).
-/

namespace TextAdventure

open Text (IsName)

namespace Session

variable {s : Session} {c : Command} {room : Room} {name : String} {x y : Item}
  {items inventory : ItemList}

/-! ## Typing a command -/

/-- The standard aliases leave the text of a full command alone. -/
theorem command_text (haliases : s.aliases = .standard) (hc : c.WellNamed)
    (hfull : c.isFull = true) : s.command c.text = c := by
  have hparse := Command.parse_text hc
  have hr := AliasTable.resolves_resolve .standard c.text
  rw [command, haliases]
  have htext : (Command.parse c.text).isFull = true := by rw [hparse, hfull]
  rcases AliasTable.of_resolves_full htext hr with ⟨-, hout⟩ | ⟨hrespaced, name, htalk, -⟩
  · rw [hout, hparse]
  · -- Only a line that talks to someone could be taken for its short form, and this one is spaced.
    obtain rfl : c = .talkTo name := hparse.symm.trans htalk
    exact absurd (AliasTable.toList_prefix_append "talk to" (" " ++ name)) hrespaced.2

/-! ## Moving one item -/

theorem change_change (s : Session) (f g : Room → Room) (inventory inventory' : ItemList) :
    (s.change f inventory).change g inventory' = s.change (fun room => g (f room)) inventory' := by
  simp only [change, World.modifyRoom_modifyRoom]

theorem next_get (haliases : s.aliases = .standard) (hname : IsName name)
    (hroom : s.room? = some room) (htake : room.items.take? name = some (x, items)) :
    s.next ("get " ++ name) =
      s.change (fun room => { room with items }) (s.player.inventory.push x) := by
  have hcommand : s.command ("get " ++ name) = .get name :=
    command_text (c := .get name) haliases hname rfl
  have ht := turn_next s ("get " ++ name)
  rw [hcommand] at ht
  exact ht.eq_of_get hroom htake

theorem next_drop (haliases : s.aliases = .standard) (hname : IsName name)
    (hroom : s.room? = some room)
    (htake : s.player.inventory.take? name = some (x, inventory)) :
    s.next ("drop " ++ name) =
      s.change (fun room => { room with items := room.items.push x }) inventory := by
  have hcommand : s.command ("drop " ++ name) = .drop name :=
    command_text (c := .drop name) haliases hname rfl
  have ht := turn_next s ("drop " ++ name)
  rw [hcommand] at ht
  exact ht.eq_of_drop hroom htake

theorem run_get_drop (haliases : s.aliases = .standard) (hname : IsName name)
    (hroom : s.room? = some room) (hget : room.items.take? name = some (x, items))
    (hdrop : (s.player.inventory.push x).take? name = some (y, inventory)) :
    s.run ["get " ++ name, "drop " ++ name] =
      s.change (fun room => { room with items := items.push y }) inventory := by
  have here := room?_change s (fun room => { room with items }) (s.player.inventory.push x)
  rw [hroom] at here
  have dropped := next_drop (s := s.change _ _) haliases hname here hdrop
  rw [run_cons, run_cons, run_nil, next_get haliases hname hroom hget, dropped, change_change]

theorem append_singleton_perm_iff {before after : List Item} :
    (before ++ after ++ [y]).Perm (before ++ x :: after) ↔ x = y := by
  have old : (before ++ x :: after).Perm (x :: (before ++ after)) := List.perm_middle
  have new : (before ++ after ++ [y]).Perm (y :: (before ++ after)) :=
    List.perm_append_singleton y (before ++ after)
  calc (before ++ after ++ [y]).Perm (before ++ x :: after)
      ↔ (y :: (before ++ after)).Perm (x :: (before ++ after)) := by
        rw [old.congr_right, new.congr_left]
    _ ↔ y = x := by
        rw [← Multiset.coe_eq_coe, ← Multiset.cons_coe, ← Multiset.cons_coe, Multiset.cons_inj_left]
    _ ↔ x = y := eq_comm

/-- With the standard aliases, in a room that is there, the player picks up and then puts down what
has a certain name; `x` is the first item of this name in the room. If nothing carried has the name,
`x` comes to the end of the room's items and the player carries what was carried before, so the room
has the same items. If `y` is the first carried item of the name, `y` comes to the end of the room's
items and `x` to the end of what is carried; the room has the same items only if the two are equal.
Nothing else about the session changes. -/
theorem get_then_drop {before after : List Item} (haliases : s.aliases = .standard)
    (hroom : s.room? = some room) (hname : IsName name)
    (hitems : room.items.toList = before ++ x :: after) (hbefore : ∀ i ∈ before, i.name ≠ name)
    (hx : x.name = name) :
    let s' := s.run ["get " ++ name, "drop " ++ name]
    let rest := before ++ after
    ((∀ i ∈ s.player.inventory.toList, i.name ≠ name) →
        s' = s.change (fun room => { room with items := ⟨rest ++ [x]⟩ }) s.player.inventory ∧
          (rest ++ [x]).Perm room.items.toList) ∧
      ∀ front y back, s.player.inventory.toList = front ++ y :: back →
        (∀ i ∈ front, i.name ≠ name) → y.name = name →
          s' = s.change (fun room => { room with items := ⟨rest ++ [y]⟩ }) ⟨front ++ back ++ [x]⟩ ∧
            ((rest ++ [y]).Perm room.items.toList ↔ x = y) := by
  intro s' rest
  have hget : room.items.take? name = some (x, ⟨rest⟩) :=
    ItemList.take?_eq_some_iff_append.2 ⟨before, after, hitems, hbefore, hx, rfl⟩
  have same (z : Item) : (rest ++ [z]).Perm room.items.toList ↔ x = z := by
    rw [hitems]
    exact append_singleton_perm_iff
  refine ⟨fun hnone => ⟨?_, (same x).2 rfl⟩, fun front y back hcarried hfront hy =>
    ⟨?_, same y⟩⟩
  · refine run_get_drop haliases hname hroom hget (ItemList.take?_eq_some_iff_append.2 ?_)
    exact ⟨s.player.inventory.toList, [], rfl, hnone, hx, by rw [List.append_nil]⟩
  · refine run_get_drop haliases hname hroom hget (ItemList.take?_eq_some_iff_append.2 ?_)
    refine ⟨front, back ++ [x], ?_, hfront, hy, by rw [List.append_assoc]⟩
    rw [ItemList.toList_push, hcarried, List.append_assoc, List.cons_append]

/-- A player with no lamp puts the lamp of the shed behind the key; one who carries a broken lamp
leaves that one there. -/
theorem lamps_change_places :
    let id : RoomId := ⟨1, by decide, by decide⟩
    let lamp := Item.plain "old lamp" "It burns."
    let broken := Item.plain "old lamp" "It does not."
    let key := Item.plain "key" "A key."
    let rope := Item.plain "rope" "A rope."
    let shed := ((Room.bare id "A shed.").withItem lamp).withItem key
    let s := start ⟨id, [(id, shed)], by decide⟩ .standard
    let laden : Session := { s with player := ⟨id, ⟨[broken, rope]⟩⟩ }
    let lines := ["get " ++ "old lamp", "drop " ++ "old lamp"]
    (s.aliases = .standard ∧ s.room? = some shed ∧ laden.room? = some shed ∧ IsName "old lamp" ∧
        shed.items.toList = [lamp, key]) ∧
      (s.run lines = s.change (fun room => { room with items := ⟨[key, lamp]⟩ }) ⟨[]⟩ ∧
        [key, lamp].Perm shed.items.toList) ∧
      laden.run lines =
          laden.change (fun room => { room with items := ⟨[key, broken]⟩ }) ⟨[rope, lamp]⟩ ∧
        ¬[key, broken].Perm shed.items.toList := by
  intro id lamp broken key rope shed s laden lines
  have here : s.room? = some shed := rfl
  have here' : laden.room? = some shed := rfl
  have name : IsName "old lamp" := by decide +kernel
  have first : shed.items.toList = [] ++ lamp :: [key] := rfl
  have plain := (get_then_drop rfl here name first (by simp) rfl).1
    (by simp [s, start, Player.start, ItemList.empty])
  have swapped := (get_then_drop rfl here' name first (by simp) rfl).2 [] broken [rope] rfl
    (by simp) rfl
  refine ⟨⟨rfl, here, here', name, rfl⟩, plain, swapped.1, fun h => ?_⟩
  have equal : lamp = broken := swapped.2.1 h
  exact absurd equal (by decide +kernel)

end Session

end TextAdventure
