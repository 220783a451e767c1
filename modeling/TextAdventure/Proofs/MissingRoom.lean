import TextAdventure.Proofs.Frame

/-!
# A player in a room that the world lacks

Nothing that is typed or commanded there changes anything, and each answer is known: it is the text
for a missing room wherever the room would be needed. From a room of the world the player gets there
only by going along an unlocked path that leads to none of the world's rooms
(`Session.missing_room_holds_fast`). No soundness of the session is assumed.
-/

namespace TextAdventure

namespace Session

variable {s s' : Session} {c : Command}

/-! ## Answers there -/

/-- There is an answer, and no line of it is the text for a missing room. -/
def Ordinary (lines : List String) : Prop :=
  lines ≠ [] ∧ nowhere ∉ lines

instance (lines : List String) : Decidable (Ordinary lines) :=
  inferInstanceAs (Decidable (_ ∧ _))

/-- How a command is answered to a player who stands in no room of the world. -/
def AnsweredNowhere (s : Session) (lines : List String) : Command → Prop
  | .look | .go _ | .get _ | .drop _ => lines = [nowhere]
  | .use name =>
    if s.player.inventory.contains name then lines = [s!"You used the {name}.", nowhere]
    else Ordinary lines
  | _ => Ordinary lines

theorem ordinary_singleton {line : String} (h : line ≠ nowhere) : Ordinary [line] :=
  ⟨List.cons_ne_nil _ _, fun hm => h (List.mem_singleton.1 hm).symm⟩

theorem append_ne_nowhere_of_begin {a b : String} (h : ¬a.toList <+: nowhere.toList) :
    a ++ b ≠ nowhere := by
  intro heq
  refine h ⟨b.toList, ?_⟩
  rw [← String.toList_append, heq]

theorem append_ne_nowhere_of_end {a b : String} (h : ¬b.toList <:+ nowhere.toList) :
    a ++ b ≠ nowhere := by
  intro heq
  refine h ⟨a.toList, ?_⟩
  rw [← String.toList_append, heq]

theorem ordinary_inventory (s : Session) : Ordinary s.inventory := by
  unfold inventory
  split
  · exact ordinary_singleton (by decide)
  · refine ⟨List.cons_ne_nil _ _, ?_⟩
    simp only [List.mem_cons, List.mem_map, not_or, not_exists, not_and]
    refine ⟨by decide, fun item _ => ?_⟩
    rw [String.append_assoc, String.append_assoc]
    exact append_ne_nowhere_of_begin (by decide)

theorem ordinary_prompt (verb : Verb) : Ordinary [verb.prompt] := by
  cases verb <;> decide

theorem answeredNowhere_execute (h : s.room? = none) (c : Command) :
    s.AnsweredNowhere (s.execute c).1.lines c := by
  cases c with
  | look => simp [AnsweredNowhere, execute, look, h, Response.say]
  | go direction => simp [AnsweredNowhere, execute, go, h, Response.say]
  | get name => simp [AnsweredNowhere, execute, get, h, Response.say]
  | drop name => simp [AnsweredNowhere, execute, drop, h, Response.say]
  | use name =>
    cases hfind : s.player.inventory.find? name with
    | some item =>
      simp [AnsweredNowhere, execute, use, h, hfind, ItemList.contains, Response.say]
    | none =>
      have answer : Ordinary [s!"You don't have a {name} in your inventory."] :=
        ordinary_singleton (append_ne_nowhere_of_end (by decide))
      simpa [AnsweredNowhere, execute, use, hfind, ItemList.contains, Response.say] using answer
  | talkTo name =>
    have answer : Ordinary [s!"{name} is not here."] :=
      ordinary_singleton (append_ne_nowhere_of_end (by decide))
    simpa [AnsweredNowhere, execute, talkTo, h, Response.say] using answer
  | inventory => exact ordinary_inventory s
  | incomplete verb => exact ordinary_prompt verb
  | empty | quit | unknown => exact ordinary_singleton (by decide)

/-! ## No way out -/

theorem Turn.eq_of_missing (h : s.room? = none) (ht : s.Turn c s') : s' = s := by
  cases ht with
  | move hroom | pick hroom | put hroom | use hroom => cases h.symm.trans hroom
  | idle => rfl

theorem after_of_missing (h : s.room? = none) (inputs : List Input) : s.after inputs = s :=
  after_of_turn (P := (· = s)) (fun ht heq => by
    subst heq
    exact ht.eq_of_missing h) rfl inputs

theorem respond_eq_execute (s : Session) (input : Input) :
    s.respond input = s.execute (s.commandOf input) := by
  cases input <;> rfl

/-! ## The way in -/

/-- The command has the player go along an unlocked path that leads to none of the world's rooms. -/
def GoesAstray (s : Session) (c : Command) : Prop :=
  ∃ direction path, c = .go direction ∧ s.pathAt? s.player.room direction = some path ∧
    path.locked = false ∧ s.world.room? path.target = none

theorem Turn.missing_iff {room : Room} (hroom : s.room? = some room) (ht : s.Turn c s') :
    s'.room? = none ↔ s.GoesAstray c := by
  have stays (hc : ∀ direction, c ≠ .go direction) : ¬s.GoesAstray c := by
    rintro ⟨direction, -, rfl, -⟩
    exact hc direction rfl
  cases ht with
  | @move direction room path hroom hpath hlock =>
    constructor
    · exact fun h => ⟨direction, path, rfl, (pathAt?_here hroom).trans hpath, hlock, h⟩
    · rintro ⟨_, path', heq, hpath', -, htarget⟩
      cases heq
      cases hpath'.symm.trans ((pathAt?_here hroom).trans hpath)
      exact htarget
  | pick | put | use =>
    refine iff_of_false ?_ (stays fun _ => Command.noConfusion)
    simp [room?_change, hroom]
  | idle h =>
    refine iff_of_false (by simp [hroom]) ?_
    rintro ⟨direction, path, rfl, hpath, hlock, -⟩
    rw [pathAt?_here hroom] at hpath
    have hlocked := h path (by simp [hroom, hpath])
    cases hlocked.symm.trans hlock

theorem lines_of_missing {room : Room} (hroom : s.room? = some room) (direction : String)
    (h : (s.execute (.go direction)).2.room? = none) :
    (s.execute (.go direction)).1.lines = [s!"You move {direction}.", nowhere] := by
  obtain ⟨_, path, heq, hpath, hlock, htarget⟩ := ((turn_execute s _).missing_iff hroom).1 h
  cases heq
  rw [pathAt?_here hroom] at hpath
  have hmissing : { s with player := { s.player with room := path.target } }.room? = none := htarget
  simp [execute, go, hroom, hpath, hlock, look, hmissing, Response.say]

/-! ## Runs -/

/-- In a room that the world lacks no inputs change anything, and the player is answered as one who
is nowhere. From a room of the world an input leads there exactly if it has the player go along an
unlocked path to a missing room, and the answer tells of the move and of the missing room. -/
theorem missing_room_holds_fast (s : Session) :
    (s.room? = none → ∀ inputs, s.after inputs = s ∧ ∀ input,
      s.AnsweredNowhere ((s.after inputs).respond input).1.lines (s.commandOf input)) ∧
    ∀ room, s.room? = some room → ∀ input,
      ((s.respond input).2.room? = none ↔ s.GoesAstray (s.commandOf input)) ∧
      ∀ direction, s.commandOf input = .go direction → (s.respond input).2.room? = none →
        (s.respond input).1.lines = [s!"You move {direction}.", nowhere] := by
  refine ⟨fun h inputs => ⟨after_of_missing h inputs, fun input => ?_⟩,
    fun room hroom input => ⟨(turn_respond s input).missing_iff hroom, ?_⟩⟩
  · rw [after_of_missing h, respond_eq_execute]
    exact answeredNowhere_execute h _
  · intro direction hc h
    rw [respond_eq_execute, hc] at h ⊢
    exact lines_of_missing hroom direction h

/-- A hall with an open way down to a room that is missing. -/
theorem lamp_stays_carried_nowhere :
    let hall := ((Room.bare ⟨1, by decide, by decide⟩ "A hall.").withPath "down"
      ⟨⟨2, by decide, by decide⟩, false⟩).withItem (.plain "lamp" "An oil lamp.")
    let s := (start ⟨hall.id, [(hall.id, hall)], by decide⟩ .standard).after [.line "get lamp"]
    let astray := (s.respond (.line "down")).2
    s.room?.isSome = true ∧ astray.room? = none ∧
      (s.respond (.line "down")).1.lines = ["You move down.", nowhere] ∧
      astray.after [.line "drop lamp", .command (.go "up"), .line "use lamp"] = astray ∧
      (astray.respond (.line "use lamp")).1.lines = ["You used the lamp.", nowhere] := by
  intro hall s astray
  have here : s.room?.isSome = true := by decide +kernel
  have lost : astray.room? = none := by decide +kernel
  have down : s.commandOf (.line "down") = .go "down" := by decide +kernel
  have used : astray.commandOf (.line "use lamp") = .use "lamp" := by decide +kernel
  have carried : astray.player.inventory.contains "lamp" = true := by decide +kernel
  have left_world : (s.respond (.line "down")).2.room? = none := lost
  clear_value astray s
  have gone := (missing_room_holds_fast s).2 _ (Option.some_get here).symm (.line "down")
  have held := (missing_room_holds_fast astray).1 lost
  have answered := (held []).2 (.line "use lamp")
  rw [(held []).1, used, AnsweredNowhere, if_pos carried] at answered
  have moved := gone.2 "down" down left_world
  exact ⟨here, lost, moved.trans (by decide), (held _).1, answered.trans (by decide)⟩

end Session

end TextAdventure
