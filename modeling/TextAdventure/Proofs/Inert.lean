import TextAdventure.Proofs.Commutation
import TextAdventure.Proofs.Soundness

/-!
# Effects that are inert in a room

In the room where an item is used, only those of its effects are live that belong to this room and
open or unlock something. The others show that nothing happens, and leave the room as they find it,
so the live ones see the same rooms and show the same lines with or without them
(`UseEffect.told_filter`). In play the room that effects are told by is the one where the player
stands (`Session.inert_effects_do_not_matter`).
-/

namespace TextAdventure

namespace UseEffect

variable {e : UseEffect} {es : List UseEffect} {room : Room} {id : RoomId}

/-- In room `id` the effect fires and has something to open or to unlock. -/
def LiveIn (e : UseEffect) (id : RoomId) : Prop :=
  e.room = some id ∧ (e.action = .opens ∨ e.action = .unlocks)

instance (e : UseEffect) (id : RoomId) : Decidable (e.LiveIn id) :=
  inferInstanceAs (Decidable (_ ∧ _))

theorem apply_of_not_liveIn (h : ¬e.LiveIn room.id) :
    e.apply room = (some nothingHappens, room) := by
  unfold apply firesIn
  by_cases hf : e.room = some room.id
  · cases ha : e.action with
    | opens => exact absurd ⟨hf, .inl ha⟩ h
    | unlocks => exact absurd ⟨hf, .inr ha⟩ h
    | other tag => simp [hf]
  · simp [hf]

/-- Each of the effects, applied one after the other, and the line it shows, if any. -/
def told : List UseEffect → Room → List (UseEffect × Option String)
  | [], _ => []
  | e :: es, room => (e, (e.apply room).1) :: told es (e.apply room).2

theorem map_fst_told (es : List UseEffect) (room : Room) : (told es room).map Prod.fst = es := by
  induction es generalizing room with
  | nil => rfl
  | cons e es ih => rw [told, List.map_cons, ih]

theorem lines_eq_told (es : List UseEffect) (room : Room) :
    (applyAll es room).1 = (told es room).filterMap Prod.snd := by
  induction es generalizing room with
  | nil => rfl
  | cons e es ih =>
    simp only [applyAll, told, ih]
    cases hline : (e.apply room).1 <;> simp

theorem told_of_not_liveIn :
    ∀ p ∈ told es room, ¬p.1.LiveIn room.id → p.2 = some nothingHappens := by
  induction es generalizing room with
  | nil => exact fun _ hp => absurd hp List.not_mem_nil
  | cons e es ih =>
    have later : ∀ p ∈ told es (e.apply room).2, ¬p.1.LiveIn (e.apply room).2.id →
        p.2 = some nothingHappens := ih
    rw [id_apply] at later
    rw [told, List.forall_mem_cons]
    exact ⟨fun h => by rw [apply_of_not_liveIn h], later⟩

/-- Without the inert effects, the live ones show what they show among them. -/
theorem told_filter (es : List UseEffect) (room : Room) :
    told (es.filter (·.LiveIn room.id)) room = (told es room).filter (·.1.LiveIn room.id) := by
  induction es generalizing room with
  | nil => rfl
  | cons e es ih =>
    have later := ih (e.apply room).2
    rw [id_apply] at later
    by_cases h : e.LiveIn room.id
    · rw [List.filter_cons_of_pos (by simpa using h), told, told,
        List.filter_cons_of_pos (by simpa using h), later]
    · rw [List.filter_cons_of_neg (by simpa using h), told,
        List.filter_cons_of_neg (by simpa using h), ← later, apply_of_not_liveIn h]

theorem room_applyAll_filter (es : List UseEffect) (room : Room) :
    (applyAll (es.filter (·.LiveIn room.id)) room).2 = (applyAll es room).2 := by
  induction es generalizing room with
  | nil => rfl
  | cons e es ih =>
    have later := ih (e.apply room).2
    rw [id_apply] at later
    by_cases h : e.LiveIn room.id
    · rw [List.filter_cons_of_pos (by simpa using h)]
      exact later
    · rw [List.filter_cons_of_neg (by simpa using h)]
      rw [apply_of_not_liveIn h] at later
      exact later.trans (by simp only [applyAll, apply_of_not_liveIn h])

end UseEffect

/-! ## Mappings without their inert effects -/

namespace UseEffects

/-- The effects that are live in room `id`, in their order. -/
def liveIn (es : UseEffects) (id : RoomId) : UseEffects where
  entries := es.entries.filter (·.2.LiveIn id)
  nodup := es.nodup.sublist (List.filter_sublist.map Prod.fst)

theorem map_snd_liveIn (es : UseEffects) (id : RoomId) :
    (es.liveIn id).entries.map Prod.snd = (es.entries.map Prod.snd).filter (·.LiveIn id) := by
  rw [liveIn, List.filter_map]
  rfl

/-- More effects that are all inert, under new keys at any place, leave the live ones the same. -/
theorem filter_liveIn_of_more {es more : UseEffects} {id : RoomId}
    (hold : more.entries.filter (·.1 ∈ es.keys) = es.entries)
    (hnew : ∀ entry ∈ more.entries, entry.1 ∉ es.keys → ¬entry.2.LiveIn id) :
    more.entries.filter (·.2.LiveIn id) = es.entries.filter (·.2.LiveIn id) := by
  rw [← hold, List.filter_filter]
  refine List.filter_congr fun entry he => ?_
  by_cases hkey : entry.1 ∈ es.keys
  · simp [hkey]
  · simp [hkey, hnew entry he hkey]

end UseEffects

namespace Room

variable (room : Room)

theorem room_applyEffects_liveIn (m : Option UseEffects) :
    (room.applyEffects (m.map (·.liveIn room.id))).2 = (room.applyEffects m).2 := by
  cases m with
  | none => rfl
  | some effects =>
    show (UseEffect.applyAll ((effects.liveIn room.id).entries.map Prod.snd) room).2 = _
    rw [UseEffects.map_snd_liveIn]
    exact UseEffect.room_applyAll_filter _ room

theorem lines_applyEffects_liveIn (effects : UseEffects) :
    (room.applyEffects (some (effects.liveIn room.id))).1 =
      ((UseEffect.told (effects.entries.map Prod.snd) room).filter
        (·.1.LiveIn room.id)).filterMap Prod.snd := by
  show (UseEffect.applyAll ((effects.liveIn room.id).entries.map Prod.snd) room).1 = _
  rw [UseEffects.map_snd_liveIn, UseEffect.lines_eq_told, UseEffect.told_filter]

theorem room_applyEffects_of_more {m : Option UseEffects} {more : UseEffects}
    (hold : more.entries.filter (·.1 ∈ (m.getD .empty).keys) = (m.getD .empty).entries)
    (hnew : ∀ entry ∈ more.entries, entry.1 ∉ (m.getD .empty).keys → ¬entry.2.LiveIn room.id) :
    (room.applyEffects (some more)).2 = (room.applyEffects m).2 := by
  have same : more.liveIn room.id = (m.getD .empty).liveIn room.id := by
    simp only [UseEffects.liveIn, UseEffects.filter_liveIn_of_more hold hnew]
  have before : (room.applyEffects (some (m.getD .empty))).2 = (room.applyEffects m).2 := by
    cases m <;> rfl
  calc (room.applyEffects (some more)).2
      = (room.applyEffects (some (more.liveIn room.id))).2 :=
        (room.room_applyEffects_liveIn (some more)).symm
    _ = (room.applyEffects (some ((m.getD .empty).liveIn room.id))).2 := by rw [same]
    _ = (room.applyEffects m).2 := (room.room_applyEffects_liveIn (some _)).trans before

end Room

/-! ## Another mapping for an item -/

/-- The items, of which the first one of the name gets the mapping `m`. -/
def Item.remap (name : String) (m : Option UseEffects) : List Item → List Item
  | [] => []
  | item :: items =>
    if item.name = name then { item with effects := m } :: items else item :: remap name m items

theorem Item.find?_remap (name : String) (m : Option UseEffects) (items : List Item) :
    (remap name m items).find? (·.name = name) =
      (items.find? (·.name = name)).map fun item => { item with effects := m } := by
  induction items with
  | nil => rfl
  | cons item items ih =>
    by_cases h : item.name = name
    · simp [remap, h]
    · simp [remap, h, ih]

theorem Item.remap_self {name : String} {items : List Item} {item : Item}
    (h : items.find? (·.name = name) = some item) : remap name item.effects items = items := by
  induction items with
  | nil => rfl
  | cons first items ih =>
    by_cases hn : first.name = name
    · rw [List.find?_cons_of_pos (by simpa using hn)] at h
      cases h
      rw [remap, if_pos hn]
    · rw [List.find?_cons_of_neg (by simpa using hn)] at h
      rw [remap, if_neg hn, ih h]

namespace Session

variable {s : Session} {name : String} {item : Item} {room : Room}

/-- The session in which the first carried item of the name has the mapping `m`, and which is else
the same. -/
def withMapping (s : Session) (name : String) (m : Option UseEffects) : Session :=
  { s with player :=
    { s.player with inventory := ⟨Item.remap name m s.player.inventory.toList⟩ } }

theorem find?_withMapping (hfind : s.player.inventory.find? name = some item)
    (m : Option UseEffects) :
    (s.withMapping name m).player.inventory.find? name = some { item with effects := m } := by
  have found := Item.find?_remap name m s.player.inventory.toList
  exact found.trans (congrArg _ hfind)

theorem withMapping_self (hfind : s.player.inventory.find? name = some item) :
    s.withMapping name item.effects = s := by
  rw [withMapping, Item.remap_self hfind]

theorem execute_use_eq (hroom : s.room? = some room)
    (hfind : s.player.inventory.find? name = some item) :
    s.execute (.use name) =
      (.say (s!"You used the {name}." :: (room.applyEffects item.effects).1),
        s.modifyRoom fun _ => (room.applyEffects item.effects).2) := by
  simp only [execute, use, hfind, hroom]

/-- What the use of the item would do if it had the mapping `m`. -/
theorem execute_use_withMapping (hroom : s.room? = some room)
    (hfind : s.player.inventory.find? name = some item) (m : Option UseEffects) :
    (s.withMapping name m).execute (.use name) =
      (.say (s!"You used the {name}." :: (room.applyEffects m).1),
        (s.modifyRoom fun _ => (room.applyEffects m).2).withMapping name m) :=
  execute_use_eq (s := s.withMapping name m) hroom (find?_withMapping hfind m)

/-- At any point of any play, let the player use a carried item. Of its effects those are live that
belong to the room where the player stands and open or unlock something. If the mapping had no
others, the same would come of the use: the world would be the same, and so would the player up to
this mapping, which no use changes; and the lines would be the same but for those of the effects
that are missing, each of which shows that nothing happens. Nor do more effects matter to the world
that are not live and stand under new keys at any places of the mapping. -/
theorem inert_effects_do_not_matter {d : Document} {w : World} (h : World.ofDocument d = .ok w)
    (aliases : AliasTable) (lines : List String) {name : String} {item : Item}
    (hfind : ((start w aliases).run lines).player.inventory.find? name = some item) :
    let s := (start w aliases).run lines
    let here := s.player.room
    let used (m : Option UseEffects) := (s.withMapping name m).execute (.use name)
    let kept := item.effects.map (·.liveIn here)
    used item.effects = s.execute (.use name) ∧
      ((used kept).2.world = (s.execute (.use name)).2.world ∧
        (used kept).2.player = (s.withMapping name kept).player ∧
        (s.execute (.use name)).2.player = s.player) ∧
      (∀ effects, item.effects = some effects → ∃ room, s.room? = some room ∧
        let es := effects.entries.map Prod.snd
        let told := UseEffect.told es room
        told.map Prod.fst = es ∧
          (∀ p ∈ told, ¬p.1.LiveIn here → p.2 = some "Nothing happens.") ∧
          (s.execute (.use name)).1 =
            .say (s!"You used the {name}." :: told.filterMap Prod.snd) ∧
          (used kept).1 = .say (s!"You used the {name}." ::
            (told.filter (·.1.LiveIn here)).filterMap Prod.snd)) ∧
      ∀ more : UseEffects,
        let old := item.effects.getD .empty
        more.entries.filter (·.1 ∈ old.keys) = old.entries →
        (∀ entry ∈ more.entries, entry.1 ∉ old.keys → ¬entry.2.LiveIn here) →
        (used (some more)).2.world = (s.execute (.use name)).2.world := by
  intro s here used kept
  have hs : s.Sound := sound_play h aliases lines
  obtain ⟨room, hroom⟩ := hs.exists_room
  -- Effects fire by the id of the room itself, which is where the player stands.
  have hid : room.id = here := hs.id_room hroom
  have hexecute := execute_use_eq hroom hfind
  have hused (m : Option UseEffects) := execute_use_withMapping hroom hfind m
  have hworld {m : Option UseEffects}
      (hm : (room.applyEffects m).2 = (room.applyEffects item.effects).2) :
      (used m).2.world = (s.execute (.use name)).2.world := by
    simp only [used, hused, hexecute, hm]
    rfl
  refine ⟨?_, ⟨?_, ?_, ?_⟩, fun effects heffects => ⟨room, hroom, ?_, ?_, ?_, ?_⟩,
    fun more hold hnew => ?_⟩
  · exact congrArg (fun s : Session => s.execute (.use name)) (withMapping_self hfind)
  · have live := room.room_applyEffects_liveIn item.effects
    rw [hid] at live
    exact hworld live
  · simp only [used, hused]
    rfl
  · rw [hexecute]
    rfl
  · exact UseEffect.map_fst_told _ room
  · intro p hp hlive
    exact UseEffect.told_of_not_liveIn p hp (hid ▸ hlive)
  · simp only [hexecute, heffects]
    exact congrArg (fun lines => Response.say (_ :: lines)) (UseEffect.lines_eq_told _ room)
  · have shown := room.lines_applyEffects_liveIn effects
    rw [hid] at shown
    simp only [used, kept, hused, heffects, Option.map_some, shown]
  · apply hworld
    exact room.room_applyEffects_of_more hold (hid ▸ hnew)

/-- A wand for the chest and the door of a cell, with a spell for the yard, one for no room and a
dance among those that are live. -/
theorem wand_without_idle_spells :
    let cell : RoomId := ⟨1, by decide, by decide⟩
    let yard : RoomId := ⟨2, by decide, by decide⟩
    let far : UseEffect := ⟨some yard, "chest", .opens, "Unseen."⟩
    let lid : UseEffect := ⟨some cell, "chest", .opens, "The lid flies up."⟩
    let dance : UseEffect := ⟨some cell, "chest", .other "dance", "Unseen."⟩
    let door : UseEffect := ⟨some cell, "out", .unlocks, "The door clicks."⟩
    let stray : UseEffect := ⟨none, "out", .unlocks, "Unseen."⟩
    let spells := UseEffects.ofList [("a", far), ("b", lid), ("c", dance), ("d", door)]
    let more := UseEffects.ofList
      [("a", far), ("e", stray), ("b", lid), ("c", dance), ("f", dance), ("d", door)]
    let wand : Item := ⟨"wand", "A wand.", some spells⟩
    let inside := (((Room.bare cell "A cell.").withPath "out" ⟨yard, true⟩).withItem
      (.plain "chest" "A chest.")).withItem wand
    let outside := Room.bare yard "A yard."
    let w : World := ⟨cell, [(cell, inside), (yard, outside)], by decide⟩
    let s := (start w .standard).run ["get wand"]
    let used (m : UseEffects) := (s.withMapping "wand" (some m)).execute (.use "wand")
    World.ofDocument ⟨cell, [inside, outside]⟩ = .ok w ∧
      s.player.inventory.find? "wand" = some wand ∧
      (used spells).1 = .say ["You used the wand.", "Nothing happens.", "The lid flies up.",
        "Nothing happens.", "The door clicks."] ∧
      (used (spells.liveIn cell)).1 =
        .say ["You used the wand.", "The lid flies up.", "The door clicks."] ∧
      (used (spells.liveIn cell)).2.world = (s.execute (.use "wand")).2.world ∧
      (used more).2.world = (s.execute (.use "wand")).2.world := by
  intro cell yard far lid dance door stray spells more wand inside outside w s used
  have consistent : Document.fault? ⟨cell, [inside, outside]⟩ = none := by decide +kernel
  have accepted : World.ofDocument ⟨cell, [inside, outside]⟩ = .ok w :=
    World.ofDocument_eq_ok_iff.2 ⟨Document.fault?_eq_none_iff.1 consistent, rfl, rfl⟩
  have carried : s.player.inventory.find? "wand" = some wand := by decide +kernel
  have here : s.player.room = cell := by decide +kernel
  have old : more.entries.filter (·.1 ∈ spells.keys) = spells.entries := by decide +kernel
  have new : ∀ entry ∈ more.entries, entry.1 ∉ spells.keys → ¬entry.2.LiveIn cell := by
    decide +kernel
  have all_shown : (used spells).1 = .say ["You used the wand.", "Nothing happens.",
      "The lid flies up.", "Nothing happens.", "The door clicks."] := by decide +kernel
  have live_shown : (used (spells.liveIn cell)).1 =
      .say ["You used the wand.", "The lid flies up.", "The door clicks."] := by decide +kernel
  have same := inert_effects_do_not_matter accepted .standard ["get wand"] carried
  have folded : (start w .standard).run ["get wand"] = s := rfl
  rw [folded] at same
  -- From here on it does not matter how the session came about.
  clear_value s
  obtain ⟨-, ⟨world, -⟩, -, added⟩ := same
  rw [here] at world added
  exact ⟨accepted, carried, all_shown, live_shown, world, added more old new⟩

end Session

end TextAdventure
