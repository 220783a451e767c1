import TextAdventure.World.Format
import TextAdventure.Proofs.Lookup
import TextAdventure.Proofs.Json.Record

/-!
# Worlds survive being written

A value that is written and read again is the value it was, and what has been read once can be
written and read again without a change (`parse_undoes_print`). Only an action that spells a known
word as an unknown one is lost, and no text is read as one.
-/

namespace TextAdventure

open Json (Format)

/-! ## Maps in their own order -/

namespace UseEffects

theorem put_of_not_mem {key : String} (effect : UseEffect) {entries : List (String × UseEffect)}
    (h : key ∉ entries.map Prod.fst) : put key effect entries = entries ++ [(key, effect)] := by
  induction entries with
  | nil => rfl
  | cons entry rest ih =>
    rw [List.map_cons, List.mem_cons, not_or] at h
    rw [put, if_neg (fun e => h.1 e.symm), ih h.2, List.cons_append]

theorem entries_foldl_insert (es : UseEffects) {entries : List (String × UseEffect)}
    (h : ((es.entries ++ entries).map Prod.fst).Nodup) :
    (entries.foldl (fun es entry => es.insert entry.1 entry.2) es).entries =
      es.entries ++ entries := by
  induction entries generalizing es with
  | nil => exact (List.append_nil _).symm
  | cons entry rest ih =>
    have fresh : entry.1 ∉ es.entries.map Prod.fst := by
      rw [List.map_append, List.map_cons, List.nodup_append] at h
      exact fun hm => h.2.2 _ hm _ List.mem_cons_self rfl
    have inserted : (es.insert entry.1 entry.2).entries = es.entries ++ [entry] :=
      put_of_not_mem entry.2 fresh
    rw [List.foldl_cons, ih, inserted, List.append_assoc, List.singleton_append]
    rwa [inserted, List.append_assoc, List.singleton_append]

theorem ofList_entries (es : UseEffects) : ofList es.entries = es := by
  have same : (ofList es.entries).entries = es.entries := entries_foldl_insert empty es.nodup
  cases hes : ofList es.entries
  cases es
  simp_all

end UseEffects

/-! ## Actions that are what they seem -/

/-- No known action spelled out as an unknown one. -/
def EffectAction.Proper (a : EffectAction) : Prop :=
  a ≠ other "open" ∧ a ≠ other "unlock"

instance (a : EffectAction) : Decidable a.Proper :=
  inferInstanceAs (Decidable (_ ∧ _))

namespace EffectAction

/-- No word is read as a known action spelled out as an unknown one. -/
theorem proper_ofTag (tag : String) : (ofTag tag).Proper := by
  unfold ofTag
  split
  · exact ⟨nofun, nofun⟩
  · split
    · exact ⟨nofun, nofun⟩
    · rename_i hopen hunlock
      exact ⟨fun h => hopen (other.inj h), fun h => hunlock (other.inj h)⟩

theorem ofTag_tag {a : EffectAction} (h : a.Proper) : ofTag a.tag = a := by
  cases a with
  | opens => rfl
  | unlocks => rfl
  | other tag =>
    have hopen : tag ≠ "open" := fun heq => h.1 (congrArg other heq)
    have hunlock : tag ≠ "unlock" := fun heq => h.2 (congrArg other heq)
    exact (if_neg hopen).trans (if_neg hunlock)

end EffectAction

def UseEffect.Proper (e : UseEffect) : Prop :=
  e.action.Proper

instance (e : UseEffect) : Decidable e.Proper :=
  inferInstanceAs (Decidable e.action.Proper)

def UseEffects.Proper (es : UseEffects) : Prop :=
  ∀ entry ∈ es.entries, entry.2.Proper

instance (es : UseEffects) : Decidable es.Proper :=
  inferInstanceAs (Decidable (∀ entry ∈ es.entries, entry.2.Proper))

def Item.Proper (item : Item) : Prop :=
  ∀ es ∈ item.effects, es.Proper

instance (item : Item) : Decidable item.Proper :=
  inferInstanceAs (Decidable (∀ es ∈ item.effects, es.Proper))

def ItemList.Proper (items : ItemList) : Prop :=
  ∀ item ∈ items.toList, item.Proper

def Room.Proper (room : Room) : Prop :=
  room.items.Proper

def Document.Proper (d : Document) : Prop :=
  ∀ room ∈ d.rooms, room.Proper

def Player.Proper (player : Player) : Prop :=
  player.inventory.Proper

namespace UseEffects

theorem mem_put {key : String} {effect : UseEffect} {entries : List (String × UseEffect)}
    {entry : String × UseEffect} (h : entry ∈ put key effect entries) :
    entry = (key, effect) ∨ entry ∈ entries := by
  induction entries with
  | nil => exact .inl (List.mem_singleton.1 h)
  | cons first rest ih =>
    rw [put] at h
    split at h
    · rcases List.mem_cons.1 h with rfl | h
      · exact .inl rfl
      · exact .inr (List.mem_cons_of_mem _ h)
    · rcases List.mem_cons.1 h with rfl | h
      · exact .inr List.mem_cons_self
      · exact (ih h).imp_right (List.mem_cons_of_mem _)

theorem Proper.insert {es : UseEffects} (h : es.Proper) (key : String) {effect : UseEffect}
    (heffect : effect.Proper) : (es.insert key effect).Proper := by
  intro entry hentry
  rcases mem_put hentry with rfl | hentry
  · exact heffect
  · exact h entry hentry

theorem proper_ofList {entries : List (String × UseEffect)}
    (h : ∀ entry ∈ entries, entry.2.Proper) : (ofList entries).Proper := by
  refine List.foldlRecOn entries _ (motive := UseEffects.Proper) ?_ ?_
  · exact fun entry hentry => absurd hentry List.not_mem_nil
  · exact fun es hes entry hentry => hes.insert entry.1 (h entry hentry)

end UseEffects

/-! ## The formats are lawful -/

theorem RoomId.lawful_format : RoomId.format.Lawful fun _ => True where
  read_write {id} _ rest := Format.readInteger_ofInt id.lower id.upper (RoomId.ofInt?_val id) rest
  of_read _ := trivial
  legible id := Json.Token.legible_ofInt id.val

theorem RoomId.begins_format : RoomId.format.Begins :=
  fun _ => ⟨_, _, rfl, by simp [Json.Token.Begins]⟩

theorem Path.lawful_format : Path.format.Lawful fun _ => True :=
  Json.Record.lawful (R := Path.record) (C := fun _ _ => True)
    (fun
      | .target => RoomId.lawful_format
      | .locked => Format.lawful_bool)
    (fun _ _ _ => trivial) (fun _ _ _ => trivial) (fun _ _ => trivial)

theorem Paths.lawful_format : Paths.format.Lawful fun _ => True :=
  (Path.lawful_format.entries "a map").map (fun _ _ => trivial) (fun _ _ _ _ => trivial)
    (fun ps _ => ofList_of_perm (List.Perm.refl ps.entries))

theorem Character.lawful_format : Character.format.Lawful fun _ => True :=
  Json.Record.lawful (R := Character.record) (C := fun _ _ => True) (fun _ => Format.lawful_string)
    (fun _ _ _ => trivial) (fun _ _ _ => trivial) (fun _ _ => trivial)

theorem Alias.lawful_format : Alias.format.Lawful fun _ => True :=
  Json.Record.lawful (R := Alias.record) (C := fun _ _ => True) (fun _ => Format.lawful_string)
    (fun _ _ _ => trivial) (fun _ _ _ => trivial) (fun _ _ => trivial)

theorem EffectAction.lawful_format : EffectAction.format.Lawful EffectAction.Proper :=
  Format.lawful_string.map (fun tag _ => proper_ofTag tag) (fun _ _ => trivial)
    (fun _ ha => ofTag_tag ha)

theorem UseEffect.lawful_format : UseEffect.format.Lawful UseEffect.Proper :=
  Json.Record.lawful (R := UseEffect.record)
    (C := fun
      | .room => fun room : Option RoomId => ∀ id ∈ room, True
      | .target => fun _ => True
      | .action => EffectAction.Proper
      | .message => fun _ => True)
    (fun
      | .room => RoomId.lawful_format.option RoomId.begins_format
      | .target => Format.lawful_string
      | .action => EffectAction.lawful_format
      | .message => Format.lawful_string)
    (fun f v h => by
      cases f with
      | room => exact fun _ _ => trivial
      | action => cases h
      | _ => trivial)
    (fun e he f => by
      cases f with
      | room => exact fun _ _ => trivial
      | action => exact he
      | _ => trivial)
    (fun _ h => h .action)

theorem UseEffects.lawful_format : UseEffects.format.Lawful UseEffects.Proper :=
  (UseEffect.lawful_format.entries "a map of use-effects").map
    (fun _ h => proper_ofList h) (fun _ h => h) (fun es _ => ofList_entries es)

theorem UseEffects.begins_format : UseEffects.format.Begins :=
  fun es => Format.begins_entries "a map of use-effects" es.entries

theorem Item.lawful_format : Item.format.Lawful Item.Proper :=
  Json.Record.lawful (R := Item.record)
    (C := fun
      | .name => fun _ => True
      | .description => fun _ => True
      | .effects => fun effects : Option UseEffects => ∀ es ∈ effects, es.Proper)
    (fun
      | .name => Format.lawful_string
      | .description => Format.lawful_string
      | .effects => UseEffects.lawful_format.option UseEffects.begins_format)
    (fun f v h => by
      cases f with
      | effects =>
        cases h
        exact fun _ he => absurd he (by simp)
      | _ => trivial)
    (fun item hitem f => by
      cases f with
      | effects => exact hitem
      | _ => trivial)
    (fun _ h => h .effects)

theorem ItemList.lawful_format : ItemList.format.Lawful ItemList.Proper :=
  (Item.lawful_format.list Json.Record.begins).map (fun _ h => h) (fun _ h => h) (fun _ _ => rfl)

theorem Room.lawful_format : Room.format.Lawful Room.Proper :=
  Json.Record.lawful (R := Room.record)
    (C := fun
      | .id => fun _ => True
      | .description => fun _ => True
      | .paths => fun _ => True
      | .items => ItemList.Proper
      | .characters => fun characters : List Character => ∀ c ∈ characters, True)
    (fun
      | .id => RoomId.lawful_format
      | .description => Format.lawful_string
      | .paths => Paths.lawful_format
      | .items => ItemList.lawful_format
      | .characters => Character.lawful_format.list Json.Record.begins)
    (fun f v h => by
      cases f with
      | items =>
        cases h
        exact fun _ hi => absurd hi List.not_mem_nil
      | characters => exact fun _ _ => trivial
      | _ => trivial)
    (fun room hroom f => by
      cases f with
      | items => exact hroom
      | characters => exact fun _ _ => trivial
      | _ => trivial)
    (fun _ h => h .items)

theorem Document.lawful_format : Document.format.Lawful Document.Proper :=
  Json.Record.lawful (R := Document.record)
    (C := fun
      | .startingRoom => fun _ => True
      | .rooms => fun rooms : List Room => ∀ room ∈ rooms, room.Proper)
    (fun
      | .startingRoom => RoomId.lawful_format
      | .rooms => Room.lawful_format.list Json.Record.begins)
    (fun f v h => by cases f <;> cases h)
    (fun d hd f => by
      cases f with
      | startingRoom => trivial
      | rooms => exact hd)
    (fun _ h => h .rooms)

theorem Player.lawful_format : Player.format.Lawful Player.Proper :=
  Json.Record.lawful (R := Player.record)
    (C := fun
      | .room => fun _ => True
      | .inventory => ItemList.Proper)
    (fun
      | .room => RoomId.lawful_format
      | .inventory => ItemList.lawful_format)
    (fun f v h => by cases f <;> cases h)
    (fun player hplayer f => by
      cases f with
      | room => trivial
      | inventory => exact hplayer)
    (fun _ h => h .inventory)

/-! ## Written and read again -/

/-- Every value without an action spelled wrongly is read back from its text just as it was, and
nothing else is ever read. -/
theorem parse_undoes_print :
    Document.format.Faithful Document.Proper ∧
    Room.format.Faithful Room.Proper ∧
    RoomId.format.Faithful (fun _ => True) ∧
    Path.format.Faithful (fun _ => True) ∧
    Item.format.Faithful Item.Proper ∧
    ItemList.format.Faithful ItemList.Proper ∧
    UseEffects.format.Faithful UseEffects.Proper ∧
    UseEffect.format.Faithful UseEffect.Proper ∧
    EffectAction.format.Faithful EffectAction.Proper ∧
    Character.format.Faithful (fun _ => True) ∧
    Player.format.Faithful Player.Proper ∧
    Alias.format.Faithful (fun _ => True) :=
  ⟨Document.lawful_format.faithful, Room.lawful_format.faithful, RoomId.lawful_format.faithful,
    Path.lawful_format.faithful, Item.lawful_format.faithful, ItemList.lawful_format.faithful,
    UseEffects.lawful_format.faithful, UseEffect.lawful_format.faithful,
    EffectAction.lawful_format.faithful, Character.lawful_format.faithful,
    Player.lawful_format.faithful, Alias.lawful_format.faithful⟩

/-- Effects out of the order of their keys, one of them in the room with the least id, and texts of
characters that have to be escaped. -/
theorem Item.read_back_with_effects :
    let least : RoomId := { val := -0x8000_0000_0000_0000 }
    let item : Item := ⟨"\"lamp\"\\", "\x01\n", some (.ofList
      [("z", ⟨none, "", .other "Open", ""⟩), ("a", ⟨some least, "é", .unlocks, "\t"⟩)])⟩
    item.Proper ∧ Item.format.parse (Item.format.print item) = .ok item :=
  ⟨by decide, parse_undoes_print.2.2.2.2.1.parse_print _ (by decide)⟩

/-- No effects at all are not written as effects of which there are none. -/
theorem Item.print_none_ne_print_empty (name description : String) :
    Item.format.print ⟨name, description, none⟩ ≠
      Item.format.print ⟨name, description, some .empty⟩ := by
  intro h
  have same := Item.lawful_format.print_injective (fun _ he => absurd he (by simp))
    (fun es he => by cases he; exact fun _ hm => absurd hm List.not_mem_nil) h
  cases same

end TextAdventure
