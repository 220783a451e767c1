import TextAdventure.Proofs.Names
import TextAdventure.Proofs.Order

/-!
# What nobody can ask for

An item that is not called by a name is never picked up, put down or used, and a path whose
direction is not a word is never taken, whatever the aliases: in a turn the player can only ask for
names and words (`Session.asked_for_by_names_and_words`).
-/

namespace TextAdventure

open Text (words joinWords IsName IsWord)

/-! ## Items that are called by no name -/

namespace Item

/-- The items that are called by no name, in order. -/
def misnamed (items : List Item) : List Item :=
  items.filter fun item => ¬IsName item.name

theorem misnamed_append (items items' : List Item) :
    misnamed (items ++ items') = misnamed items ++ misnamed items' :=
  List.filter_append ..

theorem misnamed_singleton {item : Item} (h : IsName item.name) : misnamed [item] = [] := by
  simp [misnamed, h]

theorem misnamed_of_take? {l rest : ItemList} {name : String} {item : Item}
    (h : l.take? name = some (item, rest)) (hname : IsName name) :
    misnamed rest.toList = misnamed l.toList := by
  obtain ⟨before, after, hl, -, rfl, rfl⟩ := ItemList.take?_eq_some_iff_append.1 h
  have hmiddle : before ++ item :: after = before ++ ([item] ++ after) := rfl
  rw [hl, hmiddle, misnamed_append, misnamed_append, misnamed_append, misnamed_singleton hname,
    List.nil_append]

end Item

namespace Session

variable {s s' : Session} {c : Command} {item : Item}

/-! ## Turns -/

/-- What a command has the player use: the first carried item of the name. -/
def used (s : Session) : Command → List Item
  | .use name => (s.player.inventory.find? name).toList
  | _ => []

/-- The direction of the unlocked path that a command has the player take. -/
def taken (s : Session) : Command → List String
  | .go direction => if (s.room?.bind (·.path? direction)).any (!·.locked) then [direction] else []
  | _ => []

theorem isName_of_mem_find? {l : ItemList} {name : String} (hname : IsName name)
    (h : item ∈ (l.find? name).toList) : IsName item.name := by
  have hfound : item.name = name := by simpa using List.find?_some (Option.mem_toList.1 h)
  rwa [hfound]

theorem isName_of_mem_picked (hc : c.WellNamed) (h : item ∈ s.picked c) : IsName item.name := by
  cases c with
  | get name =>
    rw [picked] at h
    cases hroom : s.room? with
    | none => simp [hroom] at h
    | some room =>
      rw [hroom] at h
      exact isName_of_mem_find? hc h
  | _ => cases h

theorem isName_of_mem_dropped {id : RoomId} (hc : c.WellNamed) (h : item ∈ s.dropped id c) :
    IsName item.name := by
  cases c with
  | drop name =>
    rw [dropped] at h
    split at h
    · exact isName_of_mem_find? hc h
    · cases h
  | _ => cases h

theorem isName_of_mem_used (hc : c.WellNamed) (h : item ∈ s.used c) : IsName item.name := by
  cases c with
  | use name => exact isName_of_mem_find? hc h
  | _ => cases h

theorem isWord_of_mem_taken {direction : String} (hc : c.WellNamed) (h : direction ∈ s.taken c) :
    IsWord direction := by
  cases c with
  | go d =>
    rw [taken] at h
    split at h
    · rwa [List.mem_singleton.1 h]
    · cases h
  | _ => cases h

/-- Unless something is picked up, put down or used or a path is taken, nothing changes. -/
theorem Turn.eq_of_nothing_done (ht : s.Turn c s') (hpicked : s.picked c = [])
    (hdropped : ∀ id, s.dropped id c = []) (hused : s.used c = []) (htaken : s.taken c = []) :
    s' = s := by
  cases ht with
  | move hroom hpath hlock => simp [taken, hroom, hpath, hlock] at htaken
  | pick hroom htake =>
    simp [picked, hroom, (ItemList.take?_eq_some_iff.1 htake).1] at hpicked
  | put hroom htake =>
    have hhere := hdropped s.player.room
    simp [dropped, hroom, (ItemList.take?_eq_some_iff.1 htake).1] at hhere
  | use hroom hfind => simp [used, hfind] at hused
  | idle => rfl

theorem Turn.misnamed_inventory (ht : s.Turn c s') (hc : c.WellNamed) :
    Item.misnamed s'.player.inventory.toList = Item.misnamed s.player.inventory.toList := by
  cases ht with
  | @pick name room item items hroom htake =>
    obtain ⟨-, -, -, -, rfl, -⟩ := ItemList.take?_eq_some_iff_append.1 htake
    change Item.misnamed (s.player.inventory.toList ++ [item]) = _
    rw [Item.misnamed_append, Item.misnamed_singleton hc, List.append_nil]
  | put hroom htake => exact Item.misnamed_of_take? htake hc
  | move | use | idle => rfl

theorem Turn.misnamed_itemsAt (ht : s.Turn c s') (hc : c.WellNamed) (id : RoomId) :
    (Item.misnamed (s'.itemsAt id)).Sublist (Item.misnamed (s.itemsAt id)) := by
  rcases ht.itemsAt_keepsOrder id with ⟨-, hsub⟩ | ⟨item, hdropped, hpush⟩
  · exact hsub.filter _
  · have hname : IsName item.name := isName_of_mem_dropped hc (hdropped ▸ List.mem_cons_self)
    have hsame : Item.misnamed (s'.itemsAt id) = Item.misnamed (s.itemsAt id) := by
      rw [hpush, Item.misnamed_append, Item.misnamed_singleton hname, List.append_nil]
    exact hsame ▸ List.Sublist.refl _

/-! ## Runs -/

theorem wellNamed_command (s : Session) (line : String) : (s.command line).WellNamed :=
  Command.wellNamed_parse _

theorem misnamed_run (s : Session) (lines : List String) :
    Item.misnamed (s.run lines).player.inventory.toList =
        Item.misnamed s.player.inventory.toList ∧
      ∀ id, (Item.misnamed ((s.run lines).itemsAt id)).Sublist (Item.misnamed (s.itemsAt id)) := by
  refine run_of_next (P := fun s' => Item.misnamed s'.player.inventory.toList =
      Item.misnamed s.player.inventory.toList ∧
    ∀ id, (Item.misnamed (s'.itemsAt id)).Sublist (Item.misnamed (s.itemsAt id)))
    (fun s' line h => ?_) ⟨rfl, fun _ => .refl _⟩ lines
  have ht := turn_next s' line
  have hc := wellNamed_command s' line
  exact ⟨(ht.misnamed_inventory hc).trans h.1, fun id => (ht.misnamed_itemsAt hc id).trans (h.2 id)⟩

/-- Input tells the same command with one space between its words and none around them. Exactly the
commands with proper names and directions can be told, each by its text. So in any run, whatever the
aliases, the items that are called by no name stay carried if they are carried, and none appears in
a room; what a turn has the player pick up, put down or use is called by a name, the direction of a
path taken is a word, and else the turn changes nothing. -/
theorem asked_for_by_names_and_words :
    (∀ s, Command.parse s = Command.parse (joinWords (words s))) ∧
      (∀ c, (∃ s, Command.parse s = c) ↔ c.WellNamed) ∧
      (∀ c, c.WellNamed → Command.parse c.text = c) ∧
      ∀ (s : Session) (lines : List String), let s' := s.run lines
        (Item.misnamed s'.player.inventory.toList = Item.misnamed s.player.inventory.toList ∧
          ∀ id, (Item.misnamed (s'.itemsAt id)).Sublist (Item.misnamed (s.itemsAt id))) ∧
        ∀ line, let c := s'.command line
          (∀ item, item ∈ s'.picked c ∨ (∃ id, item ∈ s'.dropped id c) ∨ item ∈ s'.used c →
            IsName item.name) ∧
          (∀ direction ∈ s'.taken c, IsWord direction) ∧
          (s'.picked c = [] → (∀ id, s'.dropped id c = []) → s'.used c = [] → s'.taken c = [] →
            s'.next line = s') := by
  refine ⟨fun s => (Command.parse_joinWords_words s).symm, fun _ => Command.exists_parse_eq_iff,
    fun _ => Command.parse_text, fun s lines => ?_⟩
  intro s'
  refine ⟨misnamed_run s lines, fun line => ?_⟩
  have hc := wellNamed_command s' line
  refine ⟨fun item h => ?_, fun _ => isWord_of_mem_taken hc,
    (turn_next s' line).eq_of_nothing_done⟩
  rcases h with h | ⟨id, h⟩ | h
  · exact isName_of_mem_picked hc h
  · exact isName_of_mem_dropped hc h
  · exact isName_of_mem_used hc h

/-- The lamp has two spaces in its name and the way up has a blank in its direction; the key and the
way down are called by proper names. -/
theorem lamp_with_two_spaces_stays :
    let id : RoomId := ⟨1, by decide, by decide⟩
    let lamp := Item.plain "old  lamp" "Nobody can ask for it."
    let key := Item.plain "rusty key" "A key."
    let loft := (((Room.bare id "A loft.").withPath "up stairs" ⟨id, false⟩).withPath "down"
      ⟨id, false⟩).withItem lamp |>.withItem key
    let s := start ⟨id, [(id, loft)], by decide⟩ ⟨[⟨"grab", "get old  lamp"⟩, ⟨"d", "go down"⟩]⟩
    let s' := s.run ["grab", "go up stairs"]
    (Command.WellNamed (.talkTo "old man") ∧
        Command.parse "talk to old man" = .talkTo "old man") ∧
      (key ∈ s'.picked (s'.command "get rusty\u3000key") ∧ IsName key.name) ∧
      ("down" ∈ s'.taken (s'.command "d") ∧ IsWord "down") ∧
      (s'.picked (s'.command "grab") = [] ∧ s'.dropped id (s'.command "grab") = [] ∧
        s'.used (s'.command "grab") = [] ∧ s'.taken (s'.command "grab") = [] ∧
        s'.next "grab" = s') ∧
      lamp ∈ Item.misnamed (s'.itemsAt id) := by
  intro id lamp key loft s s'
  obtain ⟨-, -, told, run⟩ := asked_for_by_names_and_words
  have man : Command.WellNamed (.talkTo "old man") :=
    (by decide +kernel : IsName "old man")
  have picked : key ∈ s'.picked (s'.command "get rusty\u3000key") := by decide +kernel
  have taken : "down" ∈ s'.taken (s'.command "d") := by decide +kernel
  have nothing : s'.picked (s'.command "grab") = [] ∧ s'.used (s'.command "grab") = [] ∧
      s'.taken (s'.command "grab") = [] := by decide +kernel
  have command : s'.command "grab" = .get "old lamp" := by decide +kernel
  have kept : ∀ j, s'.dropped j (s'.command "grab") = [] := fun j => command ▸ rfl
  have turns := (run s ["grab", "go up stairs"]).2
  exact ⟨⟨man, told _ man⟩, ⟨picked, (turns _).1 key (.inl picked)⟩,
    ⟨taken, (turns "d").2.1 _ taken⟩,
    ⟨nothing.1, kept id, nothing.2.1, nothing.2.2,
      (turns "grab").2.2 nothing.1 kept nothing.2.1 nothing.2.2⟩, by decide +kernel⟩

end Session

end TextAdventure
