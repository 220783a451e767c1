import TextAdventure.Proofs.Lookup

/-!
# Consistent documents

A document has no fault exactly when its ids are distinct and all that it refers to is among its
rooms (`Document.fault?_eq_none_iff`). A world is sound when its rooms are kept under their own ids
and refer to rooms of the world only; such a world is the world of its own document, in whatever
order the document lists the rooms (`World.Sound.ofDocument_document`, `World.Sound.ofDocument_perm`).
-/

namespace TextAdventure

/-! ## What items and rooms refer to -/

namespace Item

/-- The effects of an item, in the order in which they are applied. -/
def effectList (item : Item) : List UseEffect :=
  (item.effects.getD .empty).entries.map Prod.snd

/-- All rooms that the item's effects belong to are among `ids`. -/
def RefersWithin (item : Item) (ids : List RoomId) : Prop :=
  ∀ e ∈ item.effectList, ∀ id, e.room = some id → id ∈ ids

end Item

/-- All rooms that the room's paths lead to and its items refer to are among `ids`. -/
structure Room.RefersWithin (room : Room) (ids : List RoomId) : Prop where
  paths : ∀ entry ∈ room.paths.entries, entry.2.target ∈ ids
  items : ∀ item ∈ room.items.toList, item.RefersWithin ids

namespace Document

/-- The ids are distinct, and every id that the document refers to is the id of one of its rooms. -/
structure Consistent (d : Document) : Prop where
  nodup : d.ids.Nodup
  rooms : ∀ room ∈ d.rooms, room.RefersWithin d.ids
  start : d.startingRoom ∈ d.ids

/-! ## The search for faults -/

theorem firstRepeated?_eq_none_iff {seen ids : List RoomId} :
    firstRepeated? seen ids = none ↔ ids.Nodup ∧ ∀ id ∈ ids, id ∉ seen := by
  refine ⟨nodup_of_firstRepeated?_eq_none, ?_⟩
  induction ids generalizing seen with
  | nil => exact fun _ => rfl
  | cons id ids ih =>
    rintro ⟨hn, hs⟩
    rw [List.nodup_cons] at hn
    unfold firstRepeated?
    rw [if_neg (hs id List.mem_cons_self)]
    refine ih ⟨hn.2, fun j hj hm => ?_⟩
    rcases List.mem_cons.1 hm with rfl | hm
    · exact hn.1 hj
    · exact hs j (List.mem_cons_of_mem _ hj) hm

theorem danglingPath?_eq_none_iff {ids : List RoomId} {room : Room} :
    danglingPath? ids room = none ↔ ∀ entry ∈ room.paths.entries, entry.2.target ∈ ids := by
  simp [danglingPath?]

theorem danglingEffect?_eq_none_iff {ids : List RoomId} {item : Item} :
    danglingEffect? ids item = none ↔ item.RefersWithin ids := by
  simp only [danglingEffect?, Item.RefersWithin, Item.effectList, List.findSome?_eq_none_iff,
    List.forall_mem_map, Option.bind_eq_none_iff, ite_eq_left_iff, reduceCtorEq, imp_false,
    Decidable.not_not]

theorem roomFault?_eq_none_iff {ids : List RoomId} {room : Room} :
    roomFault? ids room = none ↔ room.RefersWithin ids := by
  simp only [roomFault?, Option.orElse_eq_orElse, Option.orElse_eq_or, Option.or_eq_none_iff,
    danglingPath?_eq_none_iff, List.findSome?_eq_none_iff, danglingEffect?_eq_none_iff]
  exact ⟨fun h => ⟨h.1, h.2⟩, fun h => ⟨h.paths, h.items⟩⟩

theorem fault?_eq_none_iff {d : Document} : d.fault? = none ↔ d.Consistent := by
  have repeated : firstRepeated? [] d.ids = none ↔ d.ids.Nodup := by
    simp [firstRepeated?_eq_none_iff]
  have start : (if d.startingRoom ∈ d.ids then none
      else some (Fault.missingStartingRoom d.startingRoom)) = none ↔ d.startingRoom ∈ d.ids := by
    simp
  simp only [fault?, Option.orElse_eq_orElse, Option.orElse_eq_or, Option.or_eq_none_iff,
    Option.map_eq_none_iff, repeated, start, List.findSome?_eq_none_iff, roomFault?_eq_none_iff]
  exact ⟨fun h => ⟨h.1, h.2.1, h.2.2⟩, fun h => ⟨h.nodup, h.rooms, h.start⟩⟩

/-- The order in which the rooms are listed does not matter. -/
theorem Consistent.perm {d : Document} (h : d.Consistent) {rooms : List Room}
    (hp : rooms.Perm d.rooms) : Consistent ⟨d.startingRoom, rooms⟩ := by
  have hids : (ids ⟨d.startingRoom, rooms⟩).Perm d.ids := hp.map Room.id
  refine ⟨hids.nodup_iff.2 h.nodup, fun room hr => ?_, hids.mem_iff.2 h.start⟩
  have hw := h.rooms room (hp.mem_iff.1 hr)
  exact ⟨fun entry he => hids.mem_iff.2 (hw.paths entry he),
    fun item hi e he id heq => hids.mem_iff.2 (hw.items item hi e he id heq)⟩

end Document

/-! ## Sound worlds -/

namespace World

/-- Rooms are kept under their own ids, and all that they refer to is in the world. -/
structure Sound (w : World) : Prop where
  id_eq : ∀ {id room}, w.room? id = some room → room.id = id
  refers : ∀ {id room}, w.room? id = some room → room.RefersWithin w.ids
  start : w.startingRoom ∈ w.ids

theorem ofDocument_eq_ok_iff {d : Document} {w : World} :
    ofDocument d = .ok w ↔
      d.Consistent ∧ w.startingRoom = d.startingRoom ∧
        w.rooms = d.rooms.map fun room => (room.id, room) := by
  rw [← Document.fault?_eq_none_iff]
  unfold ofDocument
  split
  · rename_i fault hf
    simp [hf]
  · rename_i hf
    simp only [hf, Except.ok.injEq, true_and]
    cases w
    simp only [ofFaultless, mk.injEq, eq_comm]

/-- A document has the ids under which its world keeps the rooms. -/
theorem ids_of_ofDocument {d : Document} {w : World} (h : ofDocument d = .ok w) :
    w.ids = d.ids := by
  rw [ids, (ofDocument_eq_ok_iff.1 h).2.2, List.map_map]
  rfl

theorem Sound.of_ofDocument {d : Document} {w : World} (h : ofDocument d = .ok w) : w.Sound := by
  have hids := ids_of_ofDocument h
  obtain ⟨hd, hstart, hrooms⟩ := ofDocument_eq_ok_iff.1 h
  have hroom : ∀ {id room}, w.room? id = some room → room ∈ d.rooms ∧ room.id = id := by
    intro id room hr
    rw [room?_eq_some_iff, hrooms, List.mem_map] at hr
    obtain ⟨room', hm, heq⟩ := hr
    cases heq
    exact ⟨hm, rfl⟩
  exact ⟨fun hr => (hroom hr).2, fun hr => hids ▸ hd.rooms _ (hroom hr).1,
    hids ▸ hstart ▸ hd.start⟩

namespace Sound

variable {w : World}

theorem rooms_eq (h : w.Sound) : w.rooms = w.document.rooms.map fun room => (room.id, room) := by
  unfold document
  rw [List.map_map]
  refine (List.map_id w.rooms).symm.trans (List.map_congr_left ?_)
  rintro ⟨id, room⟩ hm
  simp [h.id_eq (room?_eq_some_iff.2 hm)]

theorem ids_document (h : w.Sound) : w.document.ids = w.ids := by
  rw [ids, h.rooms_eq, List.map_map]
  rfl

theorem consistent_document (h : w.Sound) : w.document.Consistent := by
  refine ⟨h.ids_document ▸ w.nodup, fun room hr => ?_, h.ids_document ▸ h.start⟩
  obtain ⟨⟨id, room⟩, hm, rfl⟩ := List.mem_map.1 hr
  exact h.ids_document ▸ h.refers (room?_eq_some_iff.2 hm)

/-- A sound world is read back from its document. -/
theorem ofDocument_document (h : w.Sound) : ofDocument w.document = .ok w :=
  ofDocument_eq_ok_iff.2 ⟨h.consistent_document, rfl, h.rooms_eq⟩

/-- Listing the rooms in another order makes a world with the same rooms. -/
theorem ofDocument_perm (h : w.Sound) {rooms : List Room} (hp : rooms.Perm w.document.rooms) :
    ∃ w', ofDocument ⟨w.startingRoom, rooms⟩ = .ok w' ∧ ∀ id, w'.room? id = w.room? id := by
  have hc : Document.Consistent ⟨w.startingRoom, rooms⟩ := h.consistent_document.perm hp
  let w' := ofFaultless _ (Document.fault?_eq_none_iff.2 hc)
  refine ⟨w', ofDocument_eq_ok_iff.2 ⟨hc, rfl, rfl⟩, fun id => ?_⟩
  have hrooms : w'.rooms.Perm w.rooms := by
    rw [h.rooms_eq]
    exact hp.map _
  refine Option.ext fun room => ?_
  rw [room?_eq_some_iff, room?_eq_some_iff, hrooms.mem_iff]

/-- Changing a room keeps a world sound if the room keeps its id and still refers to rooms of the
world only. -/
theorem modifyRoom (h : w.Sound) {id : RoomId} {f : Room → Room}
    (hid : ∀ room, w.room? id = some room → (f room).id = room.id)
    (hrefers : ∀ room, w.room? id = some room → (f room).RefersWithin w.ids) :
    (w.modifyRoom id f).Sound := by
  have changed : ∀ {j room}, (w.modifyRoom id f).room? j = some room →
      room.id = j ∧ room.RefersWithin w.ids := by
    intro j room hj
    rw [room?_modifyRoom] at hj
    split at hj
    · rename_i heq
      subst heq
      obtain ⟨old, hold, rfl⟩ := Option.map_eq_some_iff.1 hj
      exact ⟨(hid old hold).trans (h.id_eq hold), hrefers old hold⟩
    · exact ⟨h.id_eq hj, h.refers hj⟩
  refine ⟨fun hj => (changed hj).1, fun hj => ?_, ?_⟩
  · rw [ids_modifyRoom]
    exact (changed hj).2
  · rw [ids_modifyRoom]
    exact h.start

end Sound

end World

end TextAdventure
