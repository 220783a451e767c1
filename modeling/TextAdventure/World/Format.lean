import TextAdventure.Alias
import TextAdventure.Json.Record
import TextAdventure.World.Document

/-!
# The text of worlds

How worlds and their parts are written in JSON. A locked flag, paths, items and characters may be
missing and are then taken to be `false` and empty; an item's effects and an effect's room may be
missing or `null` and are not written when there are none.
-/

namespace TextAdventure

open Json (Format Record)

namespace RoomId

def format : Format RoomId where
  read := Format.readInteger ofInt?
  write id := [.number (.ofInt id.val)]

end RoomId

/-! ## Paths -/

namespace Path

inductive Field
  | target | locked
  deriving DecidableEq

def record : Record Path where
  title := "Path"
  Field := Field
  eqField := inferInstance
  fields := [.target, .locked]
  complete f := by cases f <;> simp
  key
    | .target => "roomID"
    | .locked => "isLocked"
  Value
    | .target => RoomId
    | .locked => Bool
  format
    | .target => RoomId.format
    | .locked => Format.bool
  default?
    | .target => none
    | .locked => some false
  omits _ _ := false
  make v := ⟨v .target, v .locked⟩
  get path
    | .target => path.target
    | .locked => path.locked
  nodup := by decide
  key_injective f g h := by cases f <;> cases g <;> simp_all
  default?_of_omits _ _ h := by cases h
  make_get _ := rfl

def format : Format Path :=
  record.toFormat

end Path

/-- Paths as an object with a key for each direction. -/
def Paths.format : Format Paths :=
  (Format.entries Path.format "a map").map Paths.ofList Paths.entries

/-! ## Characters -/

namespace Character

inductive Field
  | name | dialogue
  deriving DecidableEq

def record : Record Character where
  title := "Character"
  Field := Field
  eqField := inferInstance
  fields := [.name, .dialogue]
  complete f := by cases f <;> simp
  key
    | .name => "name"
    | .dialogue => "dialogue"
  Value _ := String
  format _ := Format.string
  default? _ := none
  omits _ _ := false
  make v := ⟨v .name, v .dialogue⟩
  get character
    | .name => character.name
    | .dialogue => character.dialogue
  nodup := by decide
  key_injective f g h := by cases f <;> cases g <;> simp_all
  default?_of_omits _ _ h := by cases h
  make_get _ := rfl

def format : Format Character :=
  record.toFormat

end Character

/-! ## Effects -/

/-- Actions by their words. -/
def EffectAction.format : Format EffectAction :=
  Format.string.map EffectAction.ofTag EffectAction.tag

namespace UseEffect

inductive Field
  | room | target | action | message
  deriving DecidableEq

def record : Record UseEffect where
  title := "UseEffect"
  Field := Field
  eqField := inferInstance
  fields := [.room, .target, .action, .message]
  complete f := by cases f <;> simp
  key
    | .room => "originatingRoomID"
    | .target => "target"
    | .action => "action"
    | .message => "message"
  Value
    | .room => Option RoomId
    | .target => String
    | .action => EffectAction
    | .message => String
  format
    | .room => RoomId.format.option
    | .target => Format.string
    | .action => EffectAction.format
    | .message => Format.string
  default?
    | .room => some none
    | .target => none
    | .action => none
    | .message => none
  omits
    | .room, room => Option.isNone room
    | .target, _ => false
    | .action, _ => false
    | .message, _ => false
  make v := ⟨v .room, v .target, v .action, v .message⟩
  get effect
    | .room => effect.room
    | .target => effect.target
    | .action => effect.action
    | .message => effect.message
  nodup := by decide
  key_injective f g h := by cases f <;> cases g <;> simp_all
  default?_of_omits f v h := by cases f <;> simp_all
  make_get _ := rfl

def format : Format UseEffect :=
  record.toFormat

end UseEffect

/-- Effects as an object whose members keep their order. -/
def UseEffects.format : Format UseEffects :=
  (Format.entries UseEffect.format "a map of use-effects").map UseEffects.ofList UseEffects.entries

/-! ## Items -/

namespace Item

inductive Field
  | name | description | effects
  deriving DecidableEq

def record : Record Item where
  title := "Item"
  Field := Field
  eqField := inferInstance
  fields := [.name, .description, .effects]
  complete f := by cases f <;> simp
  key
    | .name => "name"
    | .description => "description"
    | .effects => "useEffects"
  Value
    | .name => String
    | .description => String
    | .effects => Option UseEffects
  format
    | .name => Format.string
    | .description => Format.string
    | .effects => UseEffects.format.option
  default?
    | .name => none
    | .description => none
    | .effects => some none
  omits
    | .name, _ => false
    | .description, _ => false
    | .effects, effects => Option.isNone effects
  make v := ⟨v .name, v .description, v .effects⟩
  get item
    | .name => item.name
    | .description => item.description
    | .effects => item.effects
  nodup := by decide
  key_injective f g h := by cases f <;> cases g <;> simp_all
  default?_of_omits f v h := by cases f <;> simp_all
  make_get _ := rfl

def format : Format Item :=
  record.toFormat

end Item

def ItemList.format : Format ItemList :=
  Item.format.list.map ItemList.mk ItemList.toList

/-! ## Rooms, worlds and players -/

namespace Room

inductive Field
  | id | description | paths | items | characters
  deriving DecidableEq

def record : Record Room where
  title := "Room"
  Field := Field
  eqField := inferInstance
  fields := [.id, .description, .paths, .items, .characters]
  complete f := by cases f <;> simp
  key
    | .id => "id"
    | .description => "description"
    | .paths => "paths"
    | .items => "items"
    | .characters => "characters"
  Value
    | .id => RoomId
    | .description => String
    | .paths => Paths
    | .items => ItemList
    | .characters => List Character
  format
    | .id => RoomId.format
    | .description => Format.string
    | .paths => Paths.format
    | .items => ItemList.format
    | .characters => Character.format.list
  default?
    | .id => none
    | .description => none
    | .paths => some Paths.empty
    | .items => some ItemList.empty
    | .characters => some []
  omits _ _ := false
  make v := ⟨v .id, v .description, v .paths, v .items, v .characters⟩
  get room
    | .id => room.id
    | .description => room.description
    | .paths => room.paths
    | .items => room.items
    | .characters => room.characters
  nodup := by decide
  key_injective f g h := by cases f <;> cases g <;> simp_all
  default?_of_omits _ _ h := by cases h
  make_get _ := rfl

def format : Format Room :=
  record.toFormat

end Room

namespace Document

inductive Field
  | startingRoom | rooms
  deriving DecidableEq

def record : Record Document where
  title := "WorldDocument"
  Field := Field
  eqField := inferInstance
  fields := [.startingRoom, .rooms]
  complete f := by cases f <;> simp
  key
    | .startingRoom => "startingRoom"
    | .rooms => "rooms"
  Value
    | .startingRoom => RoomId
    | .rooms => List Room
  format
    | .startingRoom => RoomId.format
    | .rooms => Room.format.list
  default?
    | .startingRoom => none
    | .rooms => none
  omits _ _ := false
  make v := ⟨v .startingRoom, v .rooms⟩
  get document
    | .startingRoom => document.startingRoom
    | .rooms => document.rooms
  nodup := by decide
  key_injective f g h := by cases f <;> cases g <;> simp_all
  default?_of_omits _ _ h := by cases h
  make_get _ := rfl

def format : Format Document :=
  record.toFormat

end Document

namespace Player

inductive Field
  | room | inventory
  deriving DecidableEq

def record : Record Player where
  title := "PlayerState"
  Field := Field
  eqField := inferInstance
  fields := [.room, .inventory]
  complete f := by cases f <;> simp
  key
    | .room => "current_room"
    | .inventory => "inventory"
  Value
    | .room => RoomId
    | .inventory => ItemList
  format
    | .room => RoomId.format
    | .inventory => ItemList.format
  default?
    | .room => none
    | .inventory => none
  omits _ _ := false
  make v := ⟨v .room, v .inventory⟩
  get player
    | .room => player.room
    | .inventory => player.inventory
  nodup := by decide
  key_injective f g h := by cases f <;> cases g <;> simp_all
  default?_of_omits _ _ h := by cases h
  make_get _ := rfl

def format : Format Player :=
  record.toFormat

end Player

namespace Alias

inductive Field
  | phrase | command
  deriving DecidableEq

def record : Record Alias where
  title := "Alias"
  Field := Field
  eqField := inferInstance
  fields := [.phrase, .command]
  complete f := by cases f <;> simp
  key
    | .phrase => "phrase"
    | .command => "command"
  Value _ := String
  format _ := Format.string
  default? _ := none
  omits _ _ := false
  make v := ⟨v .phrase, v .command⟩
  get a
    | .phrase => a.phrase
    | .command => a.command
  nodup := by decide
  key_injective f g h := by cases f <;> cases g <;> simp_all
  default?_of_omits _ _ h := by cases h
  make_get _ := rfl

def format : Format Alias :=
  record.toFormat

end Alias

end TextAdventure
