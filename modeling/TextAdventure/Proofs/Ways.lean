import TextAdventure.Proofs.Frame

/-!
# Ways stay open

Where the player could walk once, the player can walk again from the same room, whatever has been
done since, and comes through the same rooms (`Session.ways_stay_open`). A session later on differs
in that locks may have been cleared, in the player's room and in all others. Going keeps this
difference, so that it carries over a walk of any length (`Session.Ahead`).
-/

namespace TextAdventure

namespace Session

variable {s s' : Session} {direction : String} {directions : List String}

/-! ## Walks -/

/-- The player's room has a path in the direction, and it is not locked. -/
def CanGo (s : Session) (direction : String) : Prop :=
  ∃ path, s.pathAt? s.player.room direction = some path ∧ path.locked = false

instance (s : Session) (direction : String) : Decidable (s.CanGo direction) :=
  decidable_of_iff ((s.pathAt? s.player.room direction).any (!·.locked) = true) (by
    simp [CanGo, Option.any_eq_true])

/-- The session after going in the direction. -/
def gone (s : Session) (direction : String) : Session :=
  (s.execute (.go direction)).2

/-- Going in the directions, one after the other, the player is never held up. -/
def CanWalk (s : Session) : List String → Prop
  | [] => True
  | direction :: directions => s.CanGo direction ∧ (s.gone direction).CanWalk directions

instance decidableCanWalk (s : Session) :
    (directions : List String) → Decidable (s.CanWalk directions)
  | [] => inferInstanceAs (Decidable True)
  | direction :: directions =>
    have := decidableCanWalk (s.gone direction) directions
    inferInstanceAs (Decidable (s.CanGo direction ∧ (s.gone direction).CanWalk directions))

/-- The rooms that the player is in after each step of going in the directions. -/
def visits (s : Session) : List String → List RoomId
  | [] => []
  | direction :: directions =>
    (s.gone direction).player.room :: (s.gone direction).visits directions

/-- The session after going in the directions. -/
def walk (s : Session) (directions : List String) : Session :=
  directions.foldl gone s

/-! ## Going -/

theorem turn_gone (s : Session) (direction : String) : s.Turn (.go direction) (s.gone direction) :=
  turn_execute s (.go direction)

theorem Turn.world_of_go (h : s.Turn (.go direction) s') : s'.world = s.world := by
  cases h <;> rfl

/-- A line of another beginning does not say that the player moves. -/
theorem ne_moves {line : String} (h : line.toList.take 5 ≠ "You m".toList) (direction : String) :
    line ≠ s!"You move {direction}." := by
  rintro rfl
  exact h (by simp [toString])

/-- The player can go in a direction exactly if the answer is that the player moves. -/
theorem canGo_iff_moves :
    s.CanGo direction ↔
      (s.execute (.go direction)).1.lines.head? = some s!"You move {direction}." := by
  have here : s.pathAt? s.player.room direction = s.room?.bind (·.path? direction) := rfl
  have hanswer : (s.execute (.go direction)).1.lines = (s.go direction).1 := rfl
  rw [CanGo, here, hanswer, go]
  -- Whatever else keeps the player in the room, the answer to it begins otherwise.
  cases s.room? with
  | none =>
    have hline : nowhere ≠ s!"You move {direction}." := ne_moves (by decide) direction
    simp [hline]
  | some room =>
    dsimp only [Option.bind_some]
    cases room.path? direction with
    | none =>
      have hline : "You can't go in that direction." ≠ s!"You move {direction}." :=
        ne_moves (by decide) direction
      simp [hline]
    | some path =>
      cases hlock : path.locked with
      | true =>
        have hline : s!"The path to the {direction} is locked." ≠ s!"You move {direction}." :=
          ne_moves (by simp [toString]) direction
        simp [hline, hlock]
      | false => simp [hlock]

/-! ## Sessions later on -/

/-- The player of `s'` is in the same room as that of `s`, and the worlds differ at most as a world
does from an earlier state of it. -/
structure Ahead (s s' : Session) : Prop where
  room : s'.player.room = s.player.room
  world : s.world.Becomes s'.world

namespace Ahead

theorem exists_path (h : s.Ahead s') {path : Path}
    (hp : s.pathAt? s.player.room direction = some path) (hopen : path.locked = false) :
    ∃ path', s'.pathAt? s'.player.room direction = some path' ∧ path'.target = path.target ∧
      path'.locked = false := by
  obtain ⟨room, hroom, hpath⟩ := Option.bind_eq_some_iff.1 hp
  obtain ⟨room', hroom', hbecomes⟩ := h.world.rooms _ room hroom
  obtain ⟨path', hpath', htarget, hstays⟩ := hbecomes.paths direction path hpath
  have hp' : s'.pathAt? s'.player.room direction = some path' := by
    rw [h.room, pathAt?, hroom']
    exact hpath'
  exact ⟨path', hp', htarget, hstays hopen⟩

/-- Where the player of `s` can go, the player of `s'` can go too; both come to the same room. -/
theorem gone (h : s.Ahead s') (hgo : s.CanGo direction) :
    s'.CanGo direction ∧ (s.gone direction).Ahead (s'.gone direction) := by
  obtain ⟨path, hp, hopen⟩ := hgo
  obtain ⟨path', hp', htarget, hopen'⟩ := h.exists_path hp hopen
  have ht := turn_gone s direction
  have ht' := turn_gone s' direction
  have hroom : (s'.gone direction).player.room = (s.gone direction).player.room :=
    calc (s'.gone direction).player.room = path'.target := ht'.room_of_go hp' hopen'
      _ = path.target := htarget
      _ = (s.gone direction).player.room := (ht.room_of_go hp hopen).symm
  have hworld : (s.gone direction).world.Becomes (s'.gone direction).world := by
    rw [ht.world_of_go, ht'.world_of_go]
    exact h.world
  exact ⟨⟨path', hp', hopen'⟩, hroom, hworld⟩

theorem walk (h : s.Ahead s') (hwalk : s.CanWalk directions) :
    s'.CanWalk directions ∧ s'.visits directions = s.visits directions ∧
      (s.walk directions).Ahead (s'.walk directions) := by
  -- Both sessions go on from the room that they have come to, so both change with each step.
  induction directions generalizing s s' with
  | nil => exact ⟨trivial, rfl, h⟩
  | cons direction directions ih =>
    obtain ⟨hgo, hrest⟩ := hwalk
    obtain ⟨hgo', hgone⟩ := h.gone hgo
    obtain ⟨hrest', hvisits, hend⟩ := ih hgone hrest
    exact ⟨⟨hgo', hrest'⟩, by rw [visits, visits, hgone.room, hvisits], hend⟩

end Ahead

/-! ## Runs -/

/-- If the player is in the same room after some inputs and could walk in some directions before,
then the player can walk in them still. The walk leads through the same rooms and to the same
room. -/
theorem ways_stay_open (inputs : List Input)
    (hback : (s.after inputs).player.room = s.player.room) (hwalk : s.CanWalk directions) :
    (s.after inputs).CanWalk directions ∧
      (s.after inputs).visits directions = s.visits directions ∧
        ((s.after inputs).walk directions).player.room = (s.walk directions).player.room := by
  have hahead : s.Ahead (s.after inputs) := ⟨hback, becomes_after s inputs⟩
  obtain ⟨hwalk', hvisits, hend⟩ := hahead.walk hwalk
  exact ⟨hwalk', hvisits, hend.room⟩

/-- The way to the library stays open while the crowbar is fetched and the key put down. -/
theorem library_open_after_storeroom :
    let s := (start .sample .standard).run ["get key", "use key"]
    let inputs : List Input := [.line "e", .line "get crowbar", .line "w", .line "drop key"]
    s.CanWalk ["north", "south"] ∧ (s.after inputs).CanWalk ["north", "south"] ∧
      (s.after inputs).visits ["north", "south"] =
        [Document.sample.library, Document.sample.hall] := by
  intro s inputs
  have hback : (s.after inputs).player.room = s.player.room := by decide +kernel
  have hwalk : s.CanWalk ["north", "south"] := by decide +kernel
  have hvisits : s.visits ["north", "south"] =
      [Document.sample.library, Document.sample.hall] := by decide +kernel
  obtain ⟨hwalk', hsame, -⟩ := ways_stay_open inputs hback hwalk
  exact ⟨hwalk, hwalk', hsame.trans hvisits⟩

end Session

end TextAdventure
