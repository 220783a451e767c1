import TextAdventure.Proofs.RoundTrip
import TextAdventure.Proofs.Json.Presentation

/-!
# The ways to write a world

A world may be written in many ways: with its fields in any order and others among them, with what
may be missing left out, and with blanks between the tokens. All of them are read as the same
document (`Document.parse_of_presentedBy`).
-/

namespace TextAdventure

open Json (Format Presentation Token)
open Json.Format (array object)

/-! ## What shows a world -/

def RoomId.shown : Presentation RoomId :=
  fun id => Presentation.integer id.val

/-- A path that is not locked need not say so. -/
def Path.shown : Presentation Path :=
  Presentation.record
    [{ key := "roomID", shown := fun path => path.target.shown },
      { key := "isLocked", shown := fun path => Presentation.bool path.locked,
        mayLack := fun path => path.locked = false }]

/-- The directions may stand in any order. -/
def Paths.shown : Presentation Paths :=
  fun ps ts => ∃ entries, entries.Perm ps.entries ∧ Presentation.entries Path.shown entries ts

def Character.shown : Presentation Character :=
  Presentation.record
    [{ key := "name", shown := fun character => Presentation.string character.name },
      { key := "dialogue", shown := fun character => Presentation.string character.dialogue }]

def EffectAction.shown : Presentation EffectAction :=
  fun a => Presentation.string a.tag

/-- An effect without a room may say so with `null`, or not at all. -/
def UseEffect.shown : Presentation UseEffect :=
  Presentation.record
    [{ key := "originatingRoomID", shown := fun e => Presentation.orNull RoomId.shown e.room,
        mayLack := fun e => e.room = none },
      { key := "target", shown := fun e => Presentation.string e.target },
      { key := "action", shown := fun e => e.action.shown },
      { key := "message", shown := fun e => Presentation.string e.message }]

/-- The effects stand in their order. -/
def UseEffects.shown : Presentation UseEffects :=
  fun es => Presentation.entries UseEffect.shown es.entries

/-- An item without effects may say so with `null`, or not at all. -/
def Item.shown : Presentation Item :=
  Presentation.record
    [{ key := "name", shown := fun item => Presentation.string item.name },
      { key := "description", shown := fun item => Presentation.string item.description },
      { key := "useEffects", shown := fun item => Presentation.orNull UseEffects.shown item.effects,
        mayLack := fun item => item.effects = none }]

/-- What a room does not have may be left out. How its paths are shown is open. -/
def Room.shownWith (paths : Presentation Paths) : Presentation Room :=
  Presentation.record
    [{ key := "id", shown := fun room => room.id.shown },
      { key := "description", shown := fun room => Presentation.string room.description },
      { key := "paths", shown := fun room => paths room.paths,
        mayLack := fun room => room.paths = .empty },
      { key := "items", shown := fun room => Presentation.list Item.shown room.items.toList,
        mayLack := fun room => room.items = .empty },
      { key := "characters", shown := fun room => Presentation.list Character.shown room.characters,
        mayLack := fun room => room.characters = [] }]

def Room.shown : Presentation Room :=
  Room.shownWith Paths.shown

def Document.shown : Presentation Document :=
  Presentation.record
    [{ key := "startingRoom", shown := fun d => d.startingRoom.shown },
      { key := "rooms", shown := fun d => Presentation.list Room.shown d.rooms }]

/-- The text shows the document, in one of the ways to write it. -/
def Document.PresentedBy (d : Document) (text : String) : Prop :=
  ∃ ts, d.shown ts ∧ Token.Layout ts text.toList

/-! ## All of it is taken for what it shows -/

theorem RoomId.accepts_format : RoomId.format.Accepts RoomId.shown fun _ => True := by
  rintro id - _ rfl
  exact ⟨⟨Format.readInteger_ofInt id.lower id.upper (ofInt?_val id), _, _, rfl, by simp⟩,
    Token.separate_singleton _⟩

theorem Path.accepts_format : Path.format.Accepts Path.shown fun _ => True :=
  Json.Record.accepts (R := Path.record) fun _ _ =>
    .cons ⟨rfl, RoomId.accepts_format _ trivial, fun h => h.elim⟩ <|
    .cons ⟨rfl, Format.accepts_bool _ trivial, fun h => congrArg some h.symm⟩ .nil

theorem Paths.accepts_format : Paths.format.Accepts Paths.shown fun _ => True :=
  (Path.accepts_format.entries "a map").map fun _ _ _ h => by
    obtain ⟨entries, perm, hentries⟩ := h
    exact ⟨entries, fun _ _ => trivial, hentries, ofList_of_perm perm⟩

theorem Character.accepts_format : Character.format.Accepts Character.shown fun _ => True :=
  Json.Record.accepts (R := Character.record) fun _ _ =>
    .cons ⟨rfl, Format.accepts_string _ trivial, fun h => h.elim⟩ <|
    .cons ⟨rfl, Format.accepts_string _ trivial, fun h => h.elim⟩ .nil

theorem EffectAction.accepts_format :
    EffectAction.format.Accepts EffectAction.shown EffectAction.Proper :=
  Format.accepts_string.map fun a ha _ h => ⟨a.tag, trivial, h, ofTag_tag ha⟩

theorem RoomId.ne_null_of_shown (id : RoomId) (ts : List Token) (h : id.shown ts) :
    ∀ t ∈ ts.head?, t ≠ .null := by
  rw [h]
  rintro t ⟨⟩
  simp

theorem UseEffect.accepts_format : UseEffect.format.Accepts UseEffect.shown UseEffect.Proper :=
  Json.Record.accepts (R := UseEffect.record) fun _ he =>
    have room := RoomId.accepts_format.option RoomId.ne_null_of_shown
    .cons ⟨rfl, room _ fun _ _ => trivial, fun h => congrArg some h.symm⟩ <|
    .cons ⟨rfl, Format.accepts_string _ trivial, fun h => h.elim⟩ <|
    .cons ⟨rfl, EffectAction.accepts_format _ he, fun h => h.elim⟩ <|
    .cons ⟨rfl, Format.accepts_string _ trivial, fun h => h.elim⟩ .nil

theorem UseEffects.accepts_format : UseEffects.format.Accepts UseEffects.shown UseEffects.Proper :=
  (UseEffect.accepts_format.entries "a map of use-effects").map fun es hes _ h =>
    ⟨es.entries, hes, h, ofList_entries es⟩

theorem UseEffects.ne_null_of_shown (es : UseEffects) (ts : List Token) (h : es.shown ts) :
    ∀ t ∈ ts.head?, t ≠ .null := by
  obtain ⟨-⟩ := h
  rintro t ⟨⟩
  simp

theorem Item.accepts_format : Item.format.Accepts Item.shown Item.Proper :=
  Json.Record.accepts (R := Item.record) fun _ hitem =>
    have effects := UseEffects.accepts_format.option UseEffects.ne_null_of_shown
    .cons ⟨rfl, Format.accepts_string _ trivial, fun h => h.elim⟩ <|
    .cons ⟨rfl, Format.accepts_string _ trivial, fun h => h.elim⟩ <|
    .cons ⟨rfl, effects _ hitem, fun h => congrArg some h.symm⟩ .nil

theorem ItemList.accepts_format : ItemList.format.Accepts
    (fun items => Presentation.list Item.shown items.toList) ItemList.Proper :=
  Item.accepts_format.list.map fun items hitems _ h => ⟨items.toList, hitems, h, rfl⟩

/-- A room is taken for what it is if its paths are. -/
theorem Room.accepts_shownWith {paths : Presentation Paths} {C : Paths → Prop}
    (h : Paths.format.Accepts paths C) :
    Room.format.Accepts (Room.shownWith paths) fun room => room.Proper ∧ C room.paths :=
  Json.Record.accepts (R := Room.record) fun _ ⟨hroom, hpaths⟩ =>
    .cons ⟨rfl, RoomId.accepts_format _ trivial, fun h => h.elim⟩ <|
    .cons ⟨rfl, Format.accepts_string _ trivial, fun h => h.elim⟩ <|
    .cons ⟨rfl, h _ hpaths, fun h => congrArg some h.symm⟩ <|
    .cons ⟨rfl, ItemList.accepts_format _ hroom, fun h => congrArg some h.symm⟩ <|
    .cons ⟨rfl, Character.accepts_format.list _ fun _ _ => trivial,
      fun h => congrArg some h.symm⟩ .nil

theorem Room.accepts_format : Room.format.Accepts Room.shown Room.Proper :=
  fun room hroom => accepts_shownWith Paths.accepts_format room ⟨hroom, trivial⟩

theorem Document.accepts_format : Document.format.Accepts Document.shown Document.Proper :=
  Json.Record.accepts (R := Document.record) fun _ hd =>
    .cons ⟨rfl, RoomId.accepts_format _ trivial, fun h => h.elim⟩ <|
    .cons ⟨rfl, Room.accepts_format.list _ hd, fun h => h.elim⟩ .nil

/-- However a document is written, it is read as the document that it is, so no text shows two. -/
theorem Document.parse_of_presentedBy {d : Document} {text : String} (hd : d.Proper)
    (h : d.PresentedBy text) :
    Document.format.parse text = .ok d ∧
      ∀ d' : Document, d'.Proper → d'.PresentedBy text → d' = d := by
  have read {d : Document} (hd : d.Proper) (h : d.PresentedBy text) :
      Document.format.parse text = .ok d := by
    obtain ⟨ts, hshown, hlayout⟩ := h
    exact (accepts_format d hd ts hshown).parse_eq hlayout
  refine ⟨read hd h, fun d' hd' h' => ?_⟩
  have same := (read hd' h').symm.trans (read hd h)
  exact Except.ok.inj same

/-- A hall with two ways back to it, in other words than usual: with a note that is passed over, one
way as an array without its lock, all else in another order, and each token on a line of its own. -/
theorem Document.hall_read_in_other_words :
    let here : RoomId := { val := 1 }
    let hall : Room := { Room.bare here "Hall" with
      paths := .ofList [("down", ⟨here, true⟩), ("up", ⟨here, false⟩)] }
    let one : List Token := [.number (.ofInt 1)]
    let up := array [one]
    let down := object [("isLocked", [.bool true]), ("roomID", one)]
    let room := object [("note", array [[.null]]), ("paths", object [("up", up), ("down", down)]),
      ("description", [.string "Hall"]), ("id", one)]
    let document := object [("rooms", array [room]), ("startingRoom", one)]
    let text := String.ofList (document.flatMap fun t => '\n' :: t.text)
    let d : Document := ⟨here, [hall]⟩
    d.Proper ∧ d.PresentedBy text ∧ Document.format.parse text = .ok d := by
  intro here hall one up down room document text d
  have proper : d.Proper := by
    intro room hroom item hitem
    cases List.mem_singleton.1 hroom
    exact absurd hitem List.not_mem_nil
  have hup : Path.shown ⟨here, false⟩ up :=
    @Presentation.record.array _ _ _ [_] [_] [one] rfl (.cons rfl .nil) (by simp)
  have hdown : Path.shown ⟨here, true⟩ down :=
    .object (by simp [RoomId.shown, Presentation.integer, Presentation.bool, here, one])
      (by simp) (by simp) (by simp)
  have hpaths : hall.paths.shown (object [("up", up), ("down", down)]) :=
    ⟨[("up", ⟨here, false⟩), ("down", ⟨here, true⟩)], .swap _ _ [],
      .intro (.cons ⟨rfl, hup⟩ (.cons ⟨rfl, hdown⟩ .nil))⟩
  have hnote : Json.IsValue (array [[.null]]) := .array (by simpa using Json.IsValue.scalar rfl)
  have hroom : hall.shown room :=
    .object (by simp [RoomId.shown, Presentation.integer, Presentation.string, one, hpaths, hall,
        Room.bare, here])
      (by simp [hall, Room.bare]) (by simp [hnote]) (by simp)
  have hrooms : Presentation.list Room.shown d.rooms (array [room]) := .intro (.cons hroom .nil)
  have hd : d.shown document :=
    .object (by simp [RoomId.shown, Presentation.integer, one, hrooms, d, here])
      (by simp) (by simp) (by simp)
  have usual : ∀ t ∈ document, t.Firm ∨ t = .number (.ofInt 1) := by
    simp [document, room, down, up, one, object, array, Format.separated, Format.member, Token.Firm]
  have spelled : ∀ t ∈ document, t.Spelled t.text := by
    intro t ht
    rcases usual t ht with hfirm | rfl
    · exact hfirm.spelled
    · exact .number (Json.Numeral.spelled_text_ofInt 1)
  have presented : d.PresentedBy text := by
    have line : Token.Gap ['\n'] := by simp [Token.Gap]
    refine ⟨document, hd, ?_⟩
    rw [String.toList_ofList]
    exact Token.layout_flatMap line spelled
  exact ⟨proper, presented, (parse_of_presentedBy proper presented).1⟩

/-! ## What is written is one of the ways -/

theorem RoomId.shows_format : RoomId.format.Shows RoomId.shown :=
  fun id => ⟨rfl, List.forall_mem_singleton.2 (.number (Json.Numeral.spelled_text_ofInt id.val))⟩

theorem Path.shows_format : Path.format.Shows Path.shown :=
  Json.Record.shows (R := Path.record) fun path =>
    have target := RoomId.shows_format path.target
    have locked := Format.shows_bool path.locked
    .cons ⟨rfl, target.1, target.2, Bool.false_ne_true.elim⟩ <|
    .cons ⟨rfl, locked.1, locked.2, Bool.false_ne_true.elim⟩ .nil

theorem Paths.shows_format : Paths.format.Shows Paths.shown :=
  (Path.shows_format.entries "a map").map fun ps _ h => ⟨ps.entries, .refl _, h⟩

theorem Character.shows_format : Character.format.Shows Character.shown :=
  Json.Record.shows (R := Character.record) fun character =>
    have name := Format.shows_string character.name
    have dialogue := Format.shows_string character.dialogue
    .cons ⟨rfl, name.1, name.2, Bool.false_ne_true.elim⟩ <|
    .cons ⟨rfl, dialogue.1, dialogue.2, Bool.false_ne_true.elim⟩ .nil

theorem EffectAction.shows_format : EffectAction.format.Shows EffectAction.shown :=
  Format.shows_string.map fun _ _ h => h

theorem UseEffect.shows_format : UseEffect.format.Shows UseEffect.shown :=
  Json.Record.shows (R := UseEffect.record) fun e =>
    have room := RoomId.shows_format.option e.room
    have target := Format.shows_string e.target
    have action := EffectAction.shows_format e.action
    have message := Format.shows_string e.message
    .cons ⟨rfl, room.1, room.2, Option.isNone_iff_eq_none.1⟩ <|
    .cons ⟨rfl, target.1, target.2, Bool.false_ne_true.elim⟩ <|
    .cons ⟨rfl, action.1, action.2, Bool.false_ne_true.elim⟩ <|
    .cons ⟨rfl, message.1, message.2, Bool.false_ne_true.elim⟩ .nil

theorem UseEffects.shows_format : UseEffects.format.Shows UseEffects.shown :=
  (UseEffect.shows_format.entries "a map of use-effects").map fun _ _ h => h

theorem Item.shows_format : Item.format.Shows Item.shown :=
  Json.Record.shows (R := Item.record) fun item =>
    have name := Format.shows_string item.name
    have description := Format.shows_string item.description
    have effects := UseEffects.shows_format.option item.effects
    .cons ⟨rfl, name.1, name.2, Bool.false_ne_true.elim⟩ <|
    .cons ⟨rfl, description.1, description.2, Bool.false_ne_true.elim⟩ <|
    .cons ⟨rfl, effects.1, effects.2, Option.isNone_iff_eq_none.1⟩ .nil

theorem Room.shows_format : Room.format.Shows Room.shown :=
  Json.Record.shows (R := Room.record) fun room =>
    have id := RoomId.shows_format room.id
    have description := Format.shows_string room.description
    have paths := Paths.shows_format room.paths
    have items := Item.shows_format.list room.items.toList
    have characters := Character.shows_format.list room.characters
    .cons ⟨rfl, id.1, id.2, Bool.false_ne_true.elim⟩ <|
    .cons ⟨rfl, description.1, description.2, Bool.false_ne_true.elim⟩ <|
    .cons ⟨rfl, paths.1, paths.2, Bool.false_ne_true.elim⟩ <|
    .cons ⟨rfl, items.1, items.2, Bool.false_ne_true.elim⟩ <|
    .cons ⟨rfl, characters.1, characters.2, Bool.false_ne_true.elim⟩ .nil

theorem Document.shows_format : Document.format.Shows Document.shown :=
  Json.Record.shows (R := Document.record) fun d =>
    have startingRoom := RoomId.shows_format d.startingRoom
    have rooms := Room.shows_format.list d.rooms
    .cons ⟨rfl, startingRoom.1, startingRoom.2, Bool.false_ne_true.elim⟩ <|
    .cons ⟨rfl, rooms.1, rooms.2, Bool.false_ne_true.elim⟩ .nil

/-- Every document is presented by the text that is written for it. -/
theorem Document.presentedBy_print (d : Document) : d.PresentedBy (Document.format.print d) :=
  Document.shows_format.exists_layout d

end TextAdventure
