import Mathlib.Tactic.ByContra
import Mathlib.Tactic.Push
import TextAdventure.Proofs.Consistency
import TextAdventure.World.Sample

/-!
# Which documents are accepted, and what is told of the others

A document makes a world exactly when it is consistent. Of another one the first repeated id is
told; if there is none, a reference to a missing room, the first one of some room; and if there is
none of these either, the missing starting room (`World.accepted_iff_consistent`).

Only the choice among several rooms with dangling references depends on the order in which the rooms
are looked through. So all is stated for any order; `World.ofDocument` takes that of the document
(`World.ofDocumentVia_rooms`).
-/

namespace TextAdventure

/-! ## References -/

/-- Where a room is referred to: a path in a direction of a room, or an effect of an item. -/
inductive Reference
  | path (room : RoomId) (direction : String) (target : RoomId)
  | effect (item key : String) (target : RoomId)
  deriving DecidableEq, Repr

namespace Reference

def target : Reference → RoomId
  | path _ _ target => target
  | effect _ _ target => target

/-- What is told of a reference to a room that is not there. -/
def fault : Reference → Document.Fault
  | path room direction target => .danglingPath room direction target
  | effect item key target => .danglingEffectRoom item key target

/-- The fault of a reference to none of the rooms `ids`. -/
def fault? (ids : List RoomId) (ref : Reference) : Option Document.Fault :=
  if ref.target ∈ ids then none else some ref.fault

theorem fault?_eq_none_iff {ids : List RoomId} {ref : Reference} :
    ref.fault? ids = none ↔ ref.target ∈ ids := by
  simp [fault?]

theorem fault?_eq_some_iff {ids : List RoomId} {ref : Reference} {fault : Document.Fault} :
    ref.fault? ids = some fault ↔ ref.target ∉ ids ∧ ref.fault = fault := by
  simp [fault?]

end Reference

/-- The references of an item: its effects that belong to a room, in order. -/
def Item.references (item : Item) : List Reference :=
  (item.effects.getD .empty).entries.filterMap fun (key, effect) =>
    effect.room.map (.effect item.name key)

namespace Room

/-- The references of a room: its paths in the order of their directions, then its items in order,
each with its effects. -/
def references (room : Room) : List Reference :=
  room.paths.entries.map (fun (direction, path) => .path room.id direction path.target)
    ++ room.items.toList.flatMap Item.references

/-- The first reference of the room to none of the rooms `ids`. -/
def FirstDangling (room : Room) (ids : List RoomId) (ref : Reference) : Prop :=
  ref.target ∉ ids ∧ ∃ before after, room.references = before ++ ref :: after ∧
    ∀ earlier ∈ before, earlier.target ∈ ids

end Room

/-! ## The search through one room -/

theorem findSome?_filterMap {α β γ : Type} (f : α → Option β) (g : β → Option γ) (l : List α) :
    (l.filterMap f).findSome? g = l.findSome? fun a => (f a).bind g := by
  induction l with
  | nil => rfl
  | cons a l ih => cases h : f a <;> simp [h, ih, List.findSome?_cons]

theorem findSome?_flatMap {α β γ : Type} (f : α → List β) (g : β → Option γ) (l : List α) :
    (l.flatMap f).findSome? g = l.findSome? fun a => (f a).findSome? g := by
  induction l with
  | nil => rfl
  | cons a l ih =>
    rw [List.flatMap_cons, List.findSome?_append, List.findSome?_cons, ih]
    cases (f a).findSome? g <;> rfl

namespace Document

theorem danglingEffect?_eq_findSome? (ids : List RoomId) (item : Item) :
    danglingEffect? ids item = item.references.findSome? (·.fault? ids) := by
  rw [Item.references, findSome?_filterMap, danglingEffect?]
  congr 1
  funext entry
  obtain ⟨key, effect⟩ := entry
  show effect.room.bind _ = (effect.room.map _).bind _
  cases effect.room <;> rfl

theorem roomFault?_eq_findSome? (ids : List RoomId) (room : Room) :
    roomFault? ids room = room.references.findSome? (·.fault? ids) := by
  have paths : danglingPath? ids room = (room.paths.entries.map fun (direction, path) =>
      Reference.path room.id direction path.target).findSome? (·.fault? ids) := by
    rw [List.findSome?_map]
    rfl
  have effects : danglingEffect? ids = fun item => item.references.findSome? (·.fault? ids) :=
    funext (danglingEffect?_eq_findSome? ids)
  rw [Room.references, List.findSome?_append, findSome?_flatMap, ← paths, ← effects]
  exact Option.orElse_eq_or

theorem exists_firstDangling_of_roomFault? {ids : List RoomId} {room : Room} {fault : Fault}
    (h : roomFault? ids room = some fault) :
    ∃ ref, room.FirstDangling ids ref ∧ ref.fault = fault := by
  rw [roomFault?_eq_findSome?, List.findSome?_eq_some_iff] at h
  obtain ⟨before, ref, after, hsplit, href, hbefore⟩ := h
  obtain ⟨htarget, hfault⟩ := Reference.fault?_eq_some_iff.1 href
  exact ⟨ref, ⟨htarget, before, after, hsplit, fun earlier he =>
    Reference.fault?_eq_none_iff.1 (hbefore earlier he)⟩, hfault⟩

end Document

theorem Room.not_refersWithin_of_firstDangling {room : Room} {ids : List RoomId} {ref : Reference}
    (h : room.FirstDangling ids ref) : ¬room.RefersWithin ids := by
  obtain ⟨htarget, before, after, hsplit, -⟩ := h
  intro hw
  rw [← Document.roomFault?_eq_none_iff, Document.roomFault?_eq_findSome?,
    List.findSome?_eq_none_iff] at hw
  have hmem : ref ∈ room.references := hsplit ▸ List.mem_append_right _ List.mem_cons_self
  exact htarget (Reference.fault?_eq_none_iff.1 (hw ref hmem))

/-! ## The search through a document -/

namespace Document

variable {d : Document} {order : List Room}

/-- The first fault when the rooms are looked through in the given order. Repeated ids are looked
for before, in the order of the document. -/
def faultVia? (d : Document) (order : List Room) : Option Fault :=
  (firstRepeated? [] d.ids).map .duplicateRoom
    <|> order.findSome? (roomFault? d.ids)
    <|> if d.startingRoom ∈ d.ids then none else some (.missingStartingRoom d.startingRoom)

/-- The first repeated id stands behind distinct ids, of which it is one. -/
theorem exists_append_of_firstRepeated? {seen ids : List RoomId} {id : RoomId}
    (h : firstRepeated? seen ids = some id) :
    ∃ before after, ids = before ++ id :: after ∧ before.Nodup ∧ (∀ j ∈ before, j ∉ seen) ∧
      (id ∈ before ∨ id ∈ seen) := by
  -- The ids passed move from `before` to `seen`.
  induction ids generalizing seen with
  | nil => cases h
  | cons j ids ih =>
    unfold firstRepeated? at h
    split at h
    · rename_i hseen
      cases h
      exact ⟨[], ids, rfl, List.nodup_nil, by simp, .inr hseen⟩
    · rename_i hseen
      obtain ⟨before, after, rfl, hnodup, hnew, hid⟩ := ih h
      have hj : j ∉ before := fun hm => hnew j hm List.mem_cons_self
      refine ⟨j :: before, after, rfl, List.nodup_cons.2 ⟨hj, hnodup⟩, ?_, ?_⟩
      · intro k hk
        rcases List.mem_cons.1 hk with rfl | hk
        · exact hseen
        · exact fun hm => hnew k hk (List.mem_cons_of_mem _ hm)
      · rcases hid with hid | hid
        · exact .inl (List.mem_cons_of_mem _ hid)
        · rcases List.mem_cons.1 hid with rfl | hid
          · exact .inl List.mem_cons_self
          · exact .inr hid

theorem faultVia?_of_nodup (h : d.ids.Nodup) (order : List Room) :
    d.faultVia? order = (order.findSome? (roomFault? d.ids)
      <|> if d.startingRoom ∈ d.ids then none else some (.missingStartingRoom d.startingRoom)) := by
  have hr : firstRepeated? [] d.ids = none :=
    firstRepeated?_eq_none_iff.2 ⟨h, fun _ _ => List.not_mem_nil⟩
  rw [faultVia?, hr]
  rfl

theorem faultVia?_of_not_nodup (h : ¬d.ids.Nodup) (order : List Room) :
    ∃ before room after, d.rooms = before ++ room :: after ∧ (before.map Room.id).Nodup ∧
      room.id ∈ before.map Room.id ∧ d.faultVia? order = some (.duplicateRoom room.id) := by
  cases hr : firstRepeated? [] d.ids with
  | none => exact absurd (nodup_of_firstRepeated?_eq_none hr).1 h
  | some id =>
    obtain ⟨before, after, hids, hnodup, -, hid⟩ := exists_append_of_firstRepeated? hr
    obtain ⟨rooms, rest, hrooms, rfl, hrest⟩ := List.map_eq_append_iff.1 hids
    obtain ⟨room, later, rfl, rfl, rfl⟩ := List.map_eq_cons_iff.1 hrest
    refine ⟨rooms, room, later, hrooms, hnodup, hid.resolve_right List.not_mem_nil, ?_⟩
    rw [faultVia?, hr]
    rfl

theorem faultVia?_of_dangling (h : d.ids.Nodup) (ho : order.Perm d.rooms)
    (hd : ∃ room ∈ d.rooms, ¬room.RefersWithin d.ids) :
    ∃ room ∈ d.rooms, ∃ ref, room.FirstDangling d.ids ref ∧
      d.faultVia? order = some ref.fault := by
  obtain ⟨faulty, hfaulty, hnot⟩ := hd
  rw [faultVia?_of_nodup h]
  cases hf : order.findSome? (roomFault? d.ids) with
  | none =>
    have hnone := List.findSome?_eq_none_iff.1 hf faulty (ho.mem_iff.2 hfaulty)
    exact absurd (roomFault?_eq_none_iff.1 hnone) hnot
  | some fault =>
    obtain ⟨room, hroom, hfault⟩ := List.exists_of_findSome?_eq_some hf
    obtain ⟨ref, href, rfl⟩ := exists_firstDangling_of_roomFault? hfault
    exact ⟨room, ho.mem_iff.1 hroom, ref, href, rfl⟩

/-- If only one room has dangling references, its first one is told, in whatever order the rooms are
looked through. -/
theorem faultVia?_of_sole_dangling (h : d.ids.Nodup) (ho : order.Perm d.rooms) {room : Room}
    (hroom : room ∈ d.rooms) (hd : ¬room.RefersWithin d.ids)
    (hsole : ∀ other ∈ d.rooms, other ≠ room → other.RefersWithin d.ids) :
    ∃ ref, room.FirstDangling d.ids ref ∧ d.faultVia? order = some ref.fault := by
  obtain ⟨found, hfound, ref, href, hfault⟩ := faultVia?_of_dangling h ho ⟨room, hroom, hd⟩
  have heq : found = room := by
    by_contra hne
    exact Room.not_refersWithin_of_firstDangling href (hsole found hfound hne)
  exact ⟨ref, heq ▸ href, hfault⟩

theorem findSome?_roomFault?_eq_none (ho : order.Perm d.rooms)
    (hr : ∀ room ∈ d.rooms, room.RefersWithin d.ids) :
    order.findSome? (roomFault? d.ids) = none :=
  List.findSome?_eq_none_iff.2 fun room hm => roomFault?_eq_none_iff.2 (hr room (ho.mem_iff.1 hm))

theorem faultVia?_of_missing_start (h : d.ids.Nodup) (ho : order.Perm d.rooms)
    (hr : ∀ room ∈ d.rooms, room.RefersWithin d.ids) (hs : d.startingRoom ∉ d.ids) :
    d.faultVia? order = some (.missingStartingRoom d.startingRoom) := by
  rw [faultVia?_of_nodup h, findSome?_roomFault?_eq_none ho hr, if_neg hs]
  rfl

theorem nodup_ids_of_faultVia?_eq_none (hnone : d.faultVia? order = none) : d.ids.Nodup := by
  by_contra h
  obtain ⟨_, _, _, -, -, -, hf⟩ := faultVia?_of_not_nodup h order
  cases hnone.symm.trans hf

theorem faultVia?_eq_none_iff (ho : order.Perm d.rooms) :
    d.faultVia? order = none ↔ d.Consistent := by
  constructor
  · intro hnone
    have hn : d.ids.Nodup := nodup_ids_of_faultVia?_eq_none hnone
    have hr : ∀ room ∈ d.rooms, room.RefersWithin d.ids := by
      by_contra h
      push Not at h
      obtain ⟨_, -, _, -, hf⟩ := faultVia?_of_dangling hn ho h
      cases hnone.symm.trans hf
    have hs : d.startingRoom ∈ d.ids := by
      by_contra h
      cases hnone.symm.trans (faultVia?_of_missing_start hn ho hr h)
    exact ⟨hn, hr, hs⟩
  · intro h
    rw [faultVia?_of_nodup h.nodup, findSome?_roomFault?_eq_none ho h.rooms, if_pos h.start]
    rfl

end Document

/-! ## Acceptance -/

namespace World

theorem nodup_of_faultVia?_eq_none {d : Document} {order : List Room}
    (h : d.faultVia? order = none) :
    ((d.rooms.map fun room => (room.id, room)).map Prod.fst).Nodup := by
  rw [List.map_map]
  exact Document.nodup_ids_of_faultVia?_eq_none h

/-- The world of a document, or the fault found first when its rooms are looked through in the given
order. -/
def ofDocumentVia (d : Document) (order : List Room) : Except Document.Fault World :=
  match h : d.faultVia? order with
  | some fault => .error fault
  | none => .ok ⟨d.startingRoom, d.rooms.map fun room => (room.id, room),
      nodup_of_faultVia?_eq_none h⟩

theorem ofDocumentVia_rooms (d : Document) : ofDocumentVia d d.rooms = ofDocument d :=
  rfl

variable {d : Document} {order : List Room}

theorem ofDocumentVia_eq_error_iff {fault : Document.Fault} :
    ofDocumentVia d order = .error fault ↔ d.faultVia? order = some fault := by
  unfold ofDocumentVia
  split
  · rename_i found hf
    simp [hf]
  · rename_i hf
    simp [hf]

theorem exists_ofDocumentVia_eq_ok_iff :
    (∃ w, ofDocumentVia d order = .ok w) ↔ d.faultVia? order = none := by
  unfold ofDocumentVia
  split
  · rename_i found hf
    simp [hf]
  · rename_i hf
    simp [hf]

/-- An accepted document's world has its rooms, each under its own id, and no others. -/
theorem rooms_of_ofDocumentVia {w : World} (h : ofDocumentVia d order = .ok w) :
    w.startingRoom = d.startingRoom ∧ w.size = d.rooms.length ∧
      ∀ id room, w.room? id = some room ↔ room ∈ d.rooms ∧ room.id = id := by
  unfold ofDocumentVia at h
  split at h
  · cases h
  · cases h
    refine ⟨rfl, List.length_map .., fun id room => ?_⟩
    rw [room?_eq_some_iff, List.mem_map]
    constructor
    · rintro ⟨_, hm, heq⟩
      cases heq
      exact ⟨hm, rfl⟩
    · rintro ⟨hm, rfl⟩
      exact ⟨room, hm, rfl⟩

/-- In whatever order the rooms are looked through, the consistent documents are accepted, and their
worlds have their rooms. If an id repeats, the one of the first room whose id has occurred is told;
else, if there are dangling references, the first one of some room, and of the only room that has
any; else the missing starting room. -/
theorem accepted_iff_consistent (d : Document) (order : List Room) (ho : order.Perm d.rooms) :
    ofDocument d = ofDocumentVia d d.rooms ∧
      ((∃ w, ofDocumentVia d order = .ok w) ↔ d.Consistent) ∧
      (∀ w, ofDocumentVia d order = .ok w →
        w.startingRoom = d.startingRoom ∧ w.size = d.rooms.length ∧
          ∀ id room, w.room? id = some room ↔ room ∈ d.rooms ∧ room.id = id) ∧
      (¬d.ids.Nodup →
        ∃ before room after, d.rooms = before ++ room :: after ∧ (before.map Room.id).Nodup ∧
          room.id ∈ before.map Room.id ∧
          ofDocumentVia d order = .error (.duplicateRoom room.id)) ∧
      (d.ids.Nodup → (∃ room ∈ d.rooms, ¬room.RefersWithin d.ids) →
        ∃ room ∈ d.rooms, ∃ ref, room.FirstDangling d.ids ref ∧
          ofDocumentVia d order = .error ref.fault) ∧
      (d.ids.Nodup → ∀ room ∈ d.rooms, ¬room.RefersWithin d.ids →
        (∀ other ∈ d.rooms, other ≠ room → other.RefersWithin d.ids) →
        ∃ ref, room.FirstDangling d.ids ref ∧ ofDocumentVia d order = .error ref.fault) ∧
      (d.ids.Nodup → (∀ room ∈ d.rooms, room.RefersWithin d.ids) → d.startingRoom ∉ d.ids →
        ofDocumentVia d order = .error (.missingStartingRoom d.startingRoom)) := by
  simp only [ofDocumentVia_eq_error_iff, exists_ofDocumentVia_eq_ok_iff]
  refine ⟨(ofDocumentVia_rooms d).symm, Document.faultVia?_eq_none_iff ho,
    fun w => rooms_of_ofDocumentVia, fun h => Document.faultVia?_of_not_nodup h order,
    fun h => Document.faultVia?_of_dangling h ho,
    fun h room hroom => Document.faultVia?_of_sole_dangling h ho hroom,
    fun h => Document.faultVia?_of_missing_start h ho⟩

/-- Without the attic, the library's way up is told, also when the rooms are looked through from the
last to the first. -/
theorem way_to_missing_attic :
    let d : Document := ⟨Document.sample.startingRoom, Document.sample.rooms.dropLast⟩
    d.rooms.reverse.Perm d.rooms ∧ ofDocumentVia d d.rooms.reverse =
      .error (.danglingPath Document.sample.library "up" Document.sample.attic) := by
  intro d
  let library : Room := d.rooms[1]
  have within {room : Room} (h : Document.roomFault? d.ids room = none) :
      room.RefersWithin d.ids := Document.roomFault?_eq_none_iff.1 h
  have sole : ∀ other ∈ d.rooms, other ≠ library → Document.roomFault? d.ids other = none := by
    decide +kernel
  have faulty : ¬library.RefersWithin d.ids := by
    rw [← Document.roomFault?_eq_none_iff]
    decide +kernel
  obtain ⟨ref, ⟨htarget, before, after, hsplit, -⟩, hfault⟩ :=
    (accepted_iff_consistent d d.rooms.reverse (List.reverse_perm _)).2.2.2.2.2.1
      (by decide +kernel) library (by decide +kernel) faulty
      fun other hm hne => within (sole other hm hne)
  have only : ∀ ref ∈ library.references, ref.target ∉ d.ids →
      ref.fault = .danglingPath Document.sample.library "up" Document.sample.attic := by
    decide +kernel
  have hmem : ref ∈ library.references := hsplit ▸ List.mem_append_right _ List.mem_cons_self
  exact ⟨List.reverse_perm _, only ref hmem htarget ▸ hfault⟩

end World

end TextAdventure
