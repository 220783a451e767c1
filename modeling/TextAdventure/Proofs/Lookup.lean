import TextAdventure.World.Document

/-!
# Looking up rooms and paths

What is found under an id in a world, and in a direction among paths, after a change: what was
found before, changed if the change was at that place (`World.room?_modifyRoom`,
`Paths.get?_modify`). The ids and the directions stay. Where entries are given one after the other,
the one that was given last under its key is found (`lookup_reverse_eq_some_iff`).
-/

namespace TextAdventure

/-! ## Looking up and changing -/

theorem lookup_eq_some_iff_mem {α β : Type} [BEq α] [LawfulBEq α] {entries : List (α × β)} {a : α}
    {b : β} (h : (entries.map Prod.fst).Nodup) :
    entries.lookup a = some b ↔ (a, b) ∈ entries := by
  induction entries with
  | nil => simp
  | cons entry rest ih =>
    obtain ⟨a', b'⟩ := entry
    rw [List.map_cons, List.nodup_cons] at h
    rw [List.lookup_cons, List.mem_cons]
    by_cases ha : a = a'
    · subst ha
      have hb : (a, b) ∉ rest := fun hm => h.1 (List.mem_map.2 ⟨(a, b), hm, rfl⟩)
      simp [hb, eq_comm]
    · have hne : (a == a') = false := by simpa using ha
      simp [hne, ha, ih h.2]

theorem lookup_modify {α β : Type} [BEq α] [LawfulBEq α] [DecidableEq α] (entries : List (α × β))
    (a k : α) (f : β → β) :
    (entries.map fun entry => if entry.1 = k then (entry.1, f entry.2) else entry).lookup a =
      if a = k then (entries.lookup a).map f else entries.lookup a := by
  induction entries with
  | nil => simp
  | cons entry rest ih =>
    obtain ⟨a', b'⟩ := entry
    by_cases ha : a = a'
    · subst ha
      by_cases hk : a = k <;> simp [hk]
    · have hne : (a == a') = false := by simpa using ha
      by_cases hk : a' = k <;> simp [List.lookup_cons, hk, hne, ih]
      simp [← hk, hne]

theorem lookup_eq_none_iff_notMem {α β : Type} [BEq α] [LawfulBEq α] {entries : List (α × β)}
    {a : α} : entries.lookup a = none ↔ a ∉ entries.map Prod.fst := by
  rw [List.lookup_eq_none_iff, List.mem_map]
  constructor
  · rintro hne ⟨entry, hentry, rfl⟩
    simpa using hne entry hentry
  · intro hnew entry hentry
    have hne : a ≠ entry.1 := fun heq => hnew ⟨entry, hentry, heq.symm⟩
    simpa using hne

/-! ## What is given last -/

section GivenLast

variable {α β : Type} {given : List (α × β)} {a : α} {b : β}

/-- The value is given under the key, and nothing is given under it any more afterwards. -/
def LastGiven (given : List (α × β)) (a : α) (b : β) : Prop :=
  ∃ before after, given = before ++ (a, b) :: after ∧ a ∉ after.map Prod.fst

variable [BEq α] [LawfulBEq α]

/-- What is found first from behind is what was given last. -/
theorem lookup_reverse_eq_some_iff : given.reverse.lookup a = some b ↔ LastGiven given a b := by
  rw [List.lookup_eq_some_iff]
  constructor
  · rintro ⟨l₁, l₂, heq, hne⟩
    refine ⟨l₂.reverse, l₁.reverse, ?_, fun hmem => ?_⟩
    · rw [← List.reverse_reverse given, heq]
      simp
    · obtain ⟨entry, hentry, rfl⟩ := List.mem_map.1 hmem
      simpa using hne entry (List.mem_reverse.1 hentry)
  · rintro ⟨before, after, rfl, hfresh⟩
    refine ⟨after.reverse, before.reverse, by simp, fun entry hentry => ?_⟩
    have hne : a ≠ entry.1 := fun heq =>
      hfresh (heq ▸ List.mem_map_of_mem (List.mem_reverse.1 hentry))
    simpa using hne

theorem lookup_reverse_eq_none_iff : given.reverse.lookup a = none ↔ a ∉ given.map Prod.fst := by
  rw [lookup_eq_none_iff_notMem, List.map_reverse, List.mem_reverse]

/-- Where an insertion changes what is found under its own key only, insertions one after the other
lead to what was given last. -/
theorem get?_foldl_insert [DecidableEq α] {M : Type} {get? : M → α → Option β}
    {insert : M → α → β → M} {empty : M} (hempty : ∀ a, get? empty a = none)
    (hinsert : ∀ m a b k, get? (insert m a b) k = if k = a then some b else get? m k)
    (given : List (α × β)) (k : α) :
    get? (given.foldl (fun m entry => insert m entry.1 entry.2) empty) k =
      given.reverse.lookup k := by
  rw [List.foldl_eq_foldr_reverse]
  induction given.reverse with
  | nil => exact hempty k
  | cons entry rest ih =>
    rw [List.foldr_cons, hinsert, ih, List.lookup_cons]
    by_cases hk : k = entry.1
    · simp [hk]
    · have hne : (k == entry.1) = false := by simpa using hk
      rw [if_neg hk, hne]

end GivenLast

namespace Paths

theorem nodup (ps : Paths) : (ps.entries.map Prod.fst).Nodup := by
  refine ps.ascending.imp ?_
  rintro d _ h rfl
  exact Text.not_precedes_self d h

theorem get?_eq_some_iff {ps : Paths} {direction : String} {path : Path} :
    ps.get? direction = some path ↔ (direction, path) ∈ ps.entries :=
  lookup_eq_some_iff_mem ps.nodup

theorem get?_modify (ps : Paths) (direction d : String) (f : Path → Path) :
    (ps.modify direction f).get? d =
      if d = direction then (ps.get? d).map f else ps.get? d :=
  lookup_modify ps.entries d direction f

/-! ### Giving one path after the other -/

theorem lookup_put (direction d : String) (path : Path) (entries : List (String × Path)) :
    (put direction path entries).lookup d =
      if d = direction then some path else entries.lookup d := by
  induction entries with
  | nil => grind [put]
  | cons entry rest ih => grind [put]

theorem get?_insert (ps : Paths) (direction d : String) (path : Path) :
    (ps.insert direction path).get? d = if d = direction then some path else ps.get? d :=
  lookup_put direction d path ps.entries

/-- In each direction the last path that was given for it is found. -/
theorem get?_ofList (entries : List (String × Path)) (d : String) :
    (ofList entries).get? d = entries.reverse.lookup d :=
  get?_foldl_insert (fun _ => rfl) (fun ps direction path d => get?_insert ps direction d path)
    entries d

theorem nodup_entries (ps : Paths) : ps.entries.Nodup :=
  List.Pairwise.of_map Prod.fst (fun _ _ hne heq => hne (congrArg Prod.fst heq)) ps.nodup

/-- Paths are told apart by what is found in some direction. -/
theorem ext_get? {ps qs : Paths} (h : ∀ d, ps.get? d = qs.get? d) : ps = qs := by
  have members : ∀ entry, entry ∈ ps.entries ↔ entry ∈ qs.entries := by
    rintro ⟨d, path⟩
    rw [← get?_eq_some_iff, ← get?_eq_some_iff, h d]
  have perm : ps.entries.Perm qs.entries :=
    (List.perm_ext_iff_of_nodup ps.nodup_entries qs.nodup_entries).2 members
  have same : ps.entries = qs.entries := by
    refine perm.eq_of_pairwise (fun e e' _ _ before after => ?_)
      (List.pairwise_map.1 ps.ascending) (List.pairwise_map.1 qs.ascending)
    exact absurd (before.trans after) (Text.not_precedes_self e.1)
  cases ps
  cases qs
  simp_all

/-- The order in which paths of different directions are given does not matter. -/
theorem ofList_of_perm {ps : Paths} {entries : List (String × Path)}
    (h : entries.Perm ps.entries) : ofList entries = ps := by
  have given : entries.reverse.Perm ps.entries := (List.reverse_perm entries).trans h
  have distinct : (entries.reverse.map Prod.fst).Nodup := (given.map Prod.fst).nodup_iff.2 ps.nodup
  refine ext_get? fun d => Option.ext fun path => ?_
  rw [get?_ofList, lookup_eq_some_iff_mem distinct, get?_eq_some_iff, given.mem_iff]

end Paths

namespace World

variable {w : World} {id : RoomId} {room : Room}

/-- The ids of the rooms, in order. -/
def ids (w : World) : List RoomId :=
  w.rooms.map Prod.fst

theorem room?_eq_some_iff : w.room? id = some room ↔ (id, room) ∈ w.rooms :=
  lookup_eq_some_iff_mem w.nodup

theorem mem_ids_iff : id ∈ w.ids ↔ ∃ room, w.room? id = some room := by
  simp only [ids, List.mem_map, room?_eq_some_iff]
  constructor
  · rintro ⟨⟨id, room⟩, h, rfl⟩
    exact ⟨room, h⟩
  · rintro ⟨room, h⟩
    exact ⟨(id, room), h, rfl⟩

theorem room?_modifyRoom (w : World) (id j : RoomId) (f : Room → Room) :
    (w.modifyRoom id f).room? j = if j = id then (w.room? j).map f else w.room? j :=
  lookup_modify w.rooms j id f

/-- A change of a room touches its own entry only. -/
theorem exists_rooms_eq (h : w.room? id = some room) :
    ∃ before after, w.rooms = before ++ (id, room) :: after ∧
      ∀ f : Room → Room, (w.modifyRoom id f).rooms = before ++ (id, f room) :: after := by
  obtain ⟨before, after, hrooms⟩ := List.append_of_mem (room?_eq_some_iff.1 h)
  refine ⟨before, after, hrooms, fun f => ?_⟩
  have hnodup := w.nodup
  rw [hrooms, List.map_append, List.map_cons, List.nodup_append, List.nodup_cons] at hnodup
  have hbefore : ∀ entry ∈ before, entry.1 ≠ id := fun entry he =>
    hnodup.2.2 _ (List.mem_map_of_mem he) _ List.mem_cons_self
  have hafter : ∀ entry ∈ after, entry.1 ≠ id := fun entry he heq =>
    hnodup.2.1.1 (List.mem_map.2 ⟨entry, he, heq⟩)
  have same (entries : List (RoomId × Room)) (hne : ∀ entry ∈ entries, entry.1 ≠ id) :
      (entries.map fun entry => if entry.1 = id then (entry.1, f entry.2) else entry) = entries :=
    (List.map_congr_left fun entry he => if_neg (hne entry he)).trans (List.map_id _)
  change w.rooms.map _ = _
  rw [hrooms, List.map_append, List.map_cons, same _ hbefore, same _ hafter, if_pos rfl]

@[simp] theorem ids_modifyRoom (w : World) (id : RoomId) (f : Room → Room) :
    (w.modifyRoom id f).ids = w.ids := by
  unfold ids modifyRoom
  rw [List.map_map]
  refine List.map_congr_left fun entry _ => ?_
  simp only [Function.comp_apply]
  split <;> rfl

end World

end TextAdventure
