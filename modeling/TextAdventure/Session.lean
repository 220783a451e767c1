import TextAdventure.World
import TextAdventure.Alias
import TextAdventure.Command

/-!
# Sessions

A session is a world, a player in it and an alias table. Each turn it answers one command with
lines of text. A command that does not apply is answered too, and changes nothing.
-/

namespace TextAdventure

/-! ## Using an item -/

def nothingHappens : String :=
  "Nothing happens."

namespace UseEffect

/-- What one effect does to the room, and the line it shows, if any. An effect that opens what is
not there is silent; one that unlocks a direction without a path still shows its message. -/
def apply (e : UseEffect) (room : Room) : Option String × Room :=
  if e.firesIn room.id then
    match e.action with
    | .opens =>
      match room.items.take? e.target with
      | some (_, items) => (some e.message, { room with items })
      | none => (none, room)
    | .unlocks => (some e.message, room.setLocked e.target false)
    | .other _ => (some nothingHappens, room)
  else (some nothingHappens, room)

/-- What effects do one after the other, and the lines they show. -/
def applyAll : List UseEffect → Room → List String × Room
  | [], room => ([], room)
  | e :: es, room =>
    let (line, room) := e.apply room
    let (lines, room) := applyAll es room
    (line.toList ++ lines, room)

end UseEffect

/-- What using an item with these effects does to the room, and the lines shown. -/
def Room.applyEffects (room : Room) : Option UseEffects → List String × Room
  | none => ([nothingHappens], room)
  | some effects => UseEffect.applyAll (effects.entries.map Prod.snd) room

/-! ## Responses -/

/-- Whether to go on after a turn. -/
inductive Outcome
  | goesOn | quit
  deriving DecidableEq, Repr

/-- What a turn shows. -/
structure Response where
  lines : List String
  outcome : Outcome
  deriving DecidableEq, Repr

namespace Response

/-- Lines after which play goes on. -/
def say (lines : List String) : Response :=
  ⟨lines, .goesOn⟩

def text (r : Response) : String :=
  String.intercalate "\n" r.lines

end Response

/-! ## Sessions -/

structure Session where
  world : World
  player : Player
  aliases : AliasTable
  deriving DecidableEq, Repr

namespace Session

/-- A session in the starting room. -/
def start (world : World) (aliases : AliasTable) : Session :=
  ⟨world, .start world.startingRoom, aliases⟩

/-- The room the player stands in, if the world has it. -/
def room? (s : Session) : Option Room :=
  s.world.room? s.player.room

/-- The session with the player's room, if there is one, changed by `f`. -/
def modifyRoom (s : Session) (f : Room → Room) : Session :=
  { s with world := s.world.modifyRoom s.player.room f }

/-- The line in front of the first turn. -/
def intro (s : Session) : String :=
  match s.room? with
  | some room => room.description
  | none => ""

/-- The answer of a player in a room that the world lacks. -/
def nowhere : String :=
  "You are nowhere. Nothing here responds."

/-- A room as the player sees it. -/
def describe (room : Room) : List String :=
  room.description ::
    room.characters.map (fun c => s!"{c.name} is here.")
    ++ room.items.toList.map (fun item => s!"There's a {item.name} here.")
    ++ room.directions.map (fun direction => s!"You can go {direction}.")

/-! ### Verbs -/

def look (s : Session) : List String :=
  match s.room? with
  | some room => describe room
  | none => [nowhere]

def go (s : Session) (direction : String) : List String × Session :=
  match s.room? with
  | none => ([nowhere], s)
  | some room =>
    match room.path? direction with
    | none => (["You can't go in that direction."], s)
    | some path =>
      if path.locked then ([s!"The path to the {direction} is locked."], s)
      else
        let s' := { s with player := { s.player with room := path.target } }
        (s!"You move {direction}." :: s'.look, s')

/-- Picks up the first item of this name. -/
def get (s : Session) (name : String) : String × Session :=
  match s.room? with
  | none => (nowhere, s)
  | some room =>
    match room.items.take? name with
    | none => (s!"There's no {name} here to pick up.", s)
    | some (item, items) =>
      let s' := s.modifyRoom fun room => { room with items }
      (s!"You picked up the {name}.",
        { s' with player := { s.player with inventory := s.player.inventory.push item } })

/-- Puts down the first carried item of this name. -/
def drop (s : Session) (name : String) : String × Session :=
  match s.room? with
  | none => (nowhere, s)
  | some _ =>
    match s.player.inventory.take? name with
    | none => (s!"You don't have a {name} in your inventory.", s)
    | some (item, inventory) =>
      let s' := s.modifyRoom fun room => { room with items := room.items.push item }
      (s!"You dropped the {name}.", { s' with player := { s.player with inventory } })

/-- Uses the first carried item of this name in the player's room. It stays carried. -/
def use (s : Session) (name : String) : List String × Session :=
  match s.player.inventory.find? name with
  | none => ([s!"You don't have a {name} in your inventory."], s)
  | some item =>
    match s.room? with
    | none => ([s!"You used the {name}.", nowhere], s)
    | some room =>
      let (lines, room') := room.applyEffects item.effects
      (s!"You used the {name}." :: lines, s.modifyRoom fun _ => room')

def inventory (s : Session) : List String :=
  if s.player.inventory.isEmpty then ["Your inventory is empty."]
  else
    "You have:" ::
      s.player.inventory.toList.map fun item => s!"- {item.name}: {item.description}"

def talkTo (s : Session) (name : String) : String :=
  match s.room?.bind (·.character? name) with
  | some character => s!"{name}: \"{character.dialogue}\""
  | none => s!"{name} is not here."

/-! ### Turns -/

/-- Answers a command. -/
def execute (s : Session) : Command → Response × Session
  | .empty => (.say ["Please enter a command."], s)
  | .look => (.say s.look, s)
  | .inventory => (.say s.inventory, s)
  | .quit => (⟨["Goodbye!"], .quit⟩, s)
  | .go direction =>
    let (lines, s') := s.go direction
    (.say lines, s')
  | .get name =>
    let (line, s') := s.get name
    (.say [line], s')
  | .drop name =>
    let (line, s') := s.drop name
    (.say [line], s')
  | .use name =>
    let (lines, s') := s.use name
    (.say lines, s')
  | .talkTo name => (.say [s.talkTo name], s)
  | .incomplete verb => (.say [verb.prompt], s)
  | .unknown _ => (.say ["I don't understand that command."], s)

/-- Answers a line of input. -/
def handle (s : Session) (line : String) : Response × Session :=
  s.execute (Command.parse (s.aliases.resolve line))

end Session

end TextAdventure
