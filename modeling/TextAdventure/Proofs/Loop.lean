import TextAdventure.Console
import TextAdventure.Proofs.Turn

/-!
# The loop plays the session's game

On an output that never fails, what the loop does is told by the session alone. It plays the lines
that come first, up to one that is answered by quitting (`Session.Plays`): it has each of them
answered once, in order, keeps them as history, and shows the answers, each after the question
(`Console.loop_plays_session`). Nothing that comes after the event at which it ends is heard.
-/

namespace TextAdventure

namespace Session

/-! ## Lines that are played -/

/-- The answers to lines of input, each by the session to which the lines before it have led. -/
def answers (s : Session) : List String → List Response
  | [] => []
  | line :: lines => (s.handle line).1 :: (s.next line).answers lines

/-- The last one of the lines is answered by quitting. -/
def QuitsAfter (s : Session) (lines : List String) : Prop :=
  (s.answers lines).getLast?.map Response.outcome = some .quit

instance (s : Session) (lines : List String) : Decidable (s.QuitsAfter lines) :=
  inferInstanceAs (Decidable (_ = _))

/-- Of the events, `lines` are played and `rest` is left: play ends with a line that is answered by
quitting, or before an event that is not a line. -/
inductive Plays : Session → List Event → List String → List Event → Prop
  | quits {s : Session} {line : String} {rest : List Event}
      (h : (s.handle line).1.outcome = .quit) : Plays s (.line line :: rest) [line] rest
  | goesOn {s : Session} {line : String} {lines : List String} {events rest : List Event}
      (h : (s.handle line).1.outcome = .goesOn) (hp : Plays (s.next line) events lines rest) :
      Plays s (.line line :: events) (line :: lines) rest
  | stops {s : Session} {rest : List Event} (h : ∀ line, rest.head? ≠ some (.line line)) :
      Plays s rest [] rest

theorem exists_plays (s : Session) (events : List Event) :
    ∃ lines rest, s.Plays events lines rest := by
  induction events generalizing s with
  | nil => exact ⟨[], [], .stops (by simp)⟩
  | cons event events ih =>
    cases event with
    | line line =>
      cases h : (s.handle line).1.outcome with
      | quit => exact ⟨[line], events, .quits h⟩
      | goesOn =>
        obtain ⟨lines, rest, hp⟩ := ih (s.next line)
        exact ⟨line :: lines, rest, .goesOn h hp⟩
    | interrupt | endOfInput | failure => exact ⟨[], _, .stops (by simp)⟩

theorem not_quitsAfter_nil (s : Session) : ¬s.QuitsAfter [] := by
  simp [QuitsAfter, answers]

theorem quitsAfter_singleton {s : Session} {line : String} :
    s.QuitsAfter [line] ↔ (s.handle line).1.outcome = .quit := by
  simp [QuitsAfter, answers]

theorem quitsAfter_cons {s : Session} {line : String} {lines : List String}
    (h : (s.handle line).1.outcome = .goesOn) :
    s.QuitsAfter (line :: lines) ↔ (s.next line).QuitsAfter lines := by
  simp only [QuitsAfter, answers, List.getLast?_cons]
  cases ((s.next line).answers lines).getLast? <;> simp [h]

namespace Plays

variable {s : Session} {events rest rest' : List Event} {lines : List String}

theorem events_eq (h : s.Plays events lines rest) : events = lines.map .line ++ rest := by
  induction h with
  | quits => rfl
  | goesOn _ _ ih => rw [ih]; rfl
  | stops => rfl

/-- Only the last line may be answered by quitting. -/
theorem goesOn_of_mem_dropLast (h : s.Plays events lines rest) :
    ∀ r ∈ (s.answers lines).dropLast, r.outcome = .goesOn := by
  induction h with
  | quits => simp [answers]
  | @goesOn s line lines events rest h hp ih =>
    intro r hr
    rw [answers] at hr
    cases hrest : (s.next line).answers lines with
    | nil => simp [hrest] at hr
    | cons first later =>
      rw [hrest, List.dropLast_cons_cons, List.mem_cons] at hr
      rcases hr with rfl | hr
      · exact h
      · exact ih r (hrest ▸ hr)
  | stops => simp [answers]

theorem quitsAfter_or (h : s.Plays events lines rest) :
    s.QuitsAfter lines ∨ ∀ line, rest.head? ≠ some (.line line) := by
  induction h with
  | quits h => exact .inl (quitsAfter_singleton.2 h)
  | goesOn h _ ih => exact ih.imp_left (quitsAfter_cons h).2
  | stops h => exact .inr h

/-- What is left matters only by its first event, and only if the lines do not end in quitting. -/
theorem congr_rest (h : s.Plays events lines rest)
    (hr : s.QuitsAfter lines ∨ rest'.head? = rest.head?) :
    s.Plays (lines.map .line ++ rest') lines rest' := by
  induction h with
  | quits h => exact .quits h
  | goesOn h _ ih => exact .goesOn h (ih (hr.imp_left (quitsAfter_cons h).1))
  | stops h => exact .stops (hr.resolve_left (not_quitsAfter_nil _) ▸ h)

/-- As many events matter as there are lines, and one more unless the last line quits. -/
theorem of_take_eq (h : s.Plays events lines rest) {others : List Event}
    (ht : others.take (lines.length + if s.QuitsAfter lines then 0 else 1) =
      events.take (lines.length + if s.QuitsAfter lines then 0 else 1)) :
    ∃ rest', s.Plays others lines rest' ∧ (s.QuitsAfter lines ∨ rest'.head? = rest.head?) := by
  have hlines : others.take lines.length = lines.map .line := by
    have htake := congrArg (List.take lines.length) ht
    rw [List.take_take, List.take_take, Nat.min_eq_left (Nat.le_add_right ..)] at htake
    rw [htake, h.events_eq, List.take_left' (List.length_map ..)]
  have hrest : s.QuitsAfter lines ∨ (others.drop lines.length).head? = rest.head? := by
    by_cases hq : s.QuitsAfter lines
    · exact .inl hq
    · have hget := congrArg (·[lines.length]?) ht
      simp only [hq, if_false, List.getElem?_take, Nat.lt_succ_self, if_true] at hget
      refine .inr ?_
      rw [List.head?_drop, hget, h.events_eq, List.getElem?_append_right (by simp)]
      simp [List.head?_eq_getElem?]
  have hp := h.congr_rest hrest
  rw [← hlines, List.take_append_drop] at hp
  exact ⟨_, hp, hrest⟩

end Plays

end Session

/-! ## What a turn of the loop does -/

/-- How the loop ends before an event that is not a line. -/
def Ending.before : Option Event → Ending
  | some (.failure reason) => .editorFailed reason
  | _ => .quiet

theorem Ending.before_eq_editorFailed_iff {event : Option Event} {reason : String} :
    Ending.before event = .editorFailed reason ↔ event = some (.failure reason) := by
  rcases event with _ | (_ | _ | _ | _) <;> simp [before]

theorem Ending.before_eq_quiet {event : Option Event}
    (h : ∀ reason, Ending.before event ≠ .editorFailed reason) : Ending.before event = .quiet := by
  rcases event with _ | (_ | _ | _ | reason)
  case some.failure => exact absurd rfl (h reason)
  all_goals rfl

/-- The lines that a run of the loop has answered, each with the session to which it is given. -/
def Progress.turns : Progress → List Event → List (Session × String)
  | .awaits c, .line line :: events => (c.session, line) :: turns (c.hear (.line line)) events
  | _, _ => []

namespace Console

/-- Lines as they are shown, each one ended. -/
def printed (lines : List String) : String :=
  String.join (lines.map (· ++ "\n"))

/-- The console with a text shown in full. -/
def shown (c : Console) (text : String) : Console :=
  { c with sink := { c.sink with written := c.sink.written ++ text.toUTF8 } }

/-- What is shown before a line is read. -/
def asking (echoes : Bool) : String :=
  printed [question] ++ if echoes then prompt else ""

/-- The console that waits for a line. -/
def asked (c : Console) : Console :=
  { c.shown (asking c.echoes) with prompts := c.prompts ++ [prompt] }

/-- The console that has had a line answered. -/
def answered (c : Console) (line : String) : Console :=
  { c with session := c.session.next line, history := c.history ++ [line] }.shown
    (printed (c.session.handle line).1.lines)

/-- The console that has asked for lines and had them answered. -/
def played (c : Console) (lines : List String) : Console :=
  lines.foldl (fun c line => c.asked.answered line) c

variable {c : Console}

theorem shown_empty (c : Console) : c.shown "" = c := by
  simp [shown]

theorem shown_shown (c : Console) (a b : String) : (c.shown a).shown b = c.shown (a ++ b) := by
  simp [shown, ByteArray.append_assoc]

theorem write_of_unlimited (h : c.sink.limit = none) (text : String) (next : Console → Progress) :
    c.write text next = next (c.shown text) := by
  simp [write, Sink.write, h, shown]

theorem printed_cons (line : String) (lines : List String) :
    printed (line :: lines) = line ++ "\n" ++ printed lines := by
  simp [printed]

theorem printed_append (lines lines' : List String) :
    printed (lines ++ lines') = printed lines ++ printed lines' := by
  simp [printed]

theorem writeLines_of_unlimited (h : c.sink.limit = none) (lines : List String)
    (next : Console → Progress) : c.writeLines lines next = next (c.shown (printed lines)) := by
  induction lines generalizing c with
  | nil => exact congrArg next (shown_empty c).symm
  | cons line lines ih =>
    have hshown : (c.shown (line ++ "\n")).sink.limit = none := h
    rw [writeLines, write_of_unlimited h, ih hshown, shown_shown, printed_cons]

theorem ask_of_unlimited (h : c.sink.limit = none) : c.ask = .awaits c.asked := by
  let c' : Console := { c.shown (printed [question]) with prompts := c.prompts ++ [prompt] }
  have hask : c.ask = if c.echoes then c'.write prompt .awaits else .awaits c' :=
    writeLines_of_unlimited h ..
  have hc' : c'.sink.limit = none := h
  rw [hask, asked, asking]
  cases c.echoes with
  | false => simp [c']
  | true =>
    rw [if_pos rfl, if_pos rfl, ← shown_shown]
    exact write_of_unlimited hc' ..

/-- What the loop does with a line. -/
theorem hear_line_of_unlimited (h : c.sink.limit = none) (line : String) :
    c.hear (.line line) =
      match (c.session.handle line).1.outcome with
      | .quit => .ended .quiet (c.answered line)
      | .goesOn => (c.answered line).ask := by
  have hc : { c with session := c.session.next line, history := c.history ++ [line] }.sink.limit =
      none := h
  exact writeLines_of_unlimited hc ..

theorem hear_asked_of_quit (hl : c.sink.limit = none) {line : String}
    (h : (c.session.handle line).1.outcome = .quit) :
    c.asked.hear (.line line) = .ended .quiet (c.asked.answered line) := by
  have hasked : (c.asked.session.handle line).1.outcome = .quit := h
  rw [hear_line_of_unlimited (c := c.asked) hl, hasked]

theorem hear_asked_of_goesOn (hl : c.sink.limit = none) {line : String}
    (h : (c.session.handle line).1.outcome = .goesOn) :
    c.asked.hear (.line line) = (c.asked.answered line).ask := by
  have hasked : (c.asked.session.handle line).1.outcome = .goesOn := h
  rw [hear_line_of_unlimited (c := c.asked) hl, hasked]

/-! ## What a run of the loop does -/

@[simp] theorem echoes_played (c : Console) (lines : List String) :
    (c.played lines).echoes = c.echoes := by
  induction lines generalizing c with
  | nil => rfl
  | cons line lines ih => exact ih _

theorem session_played (c : Console) (lines : List String) :
    (c.played lines).session = c.session.run lines := by
  induction lines generalizing c with
  | nil => rfl
  | cons line lines ih => exact ih _

theorem history_played (c : Console) (lines : List String) :
    (c.played lines).history = c.history ++ lines := by
  induction lines generalizing c with
  | nil => exact (List.append_nil _).symm
  | cons line lines ih => exact (ih _).trans (List.append_assoc ..)

theorem prompts_played (c : Console) (lines : List String) :
    (c.played lines).prompts = c.prompts ++ List.replicate lines.length prompt := by
  induction lines generalizing c with
  | nil => exact (List.append_nil _).symm
  | cons line lines ih => exact (ih _).trans (List.append_assoc ..)

/-- What is shown with the answers, each after the question. -/
def transcript (echoes : Bool) (answers : List Response) : String :=
  String.join (answers.map fun r => asking echoes ++ printed r.lines)

theorem written_played (c : Console) (lines : List String) :
    (c.played lines).sink.written =
      c.sink.written ++ (transcript c.echoes (c.session.answers lines)).toUTF8 := by
  induction lines generalizing c with
  | nil => simp [played, Session.answers, transcript]
  | cons line lines ih =>
    refine (ih (c.asked.answered line)).trans ?_
    simp [Session.answers, transcript, answered, asked, shown, ByteArray.append_assoc]

theorem run_ended (ending : Ending) (c : Console) (events : List Event) :
    (Progress.ended ending c).run events = (ending, c) := by
  cases events <;> rfl

theorem turns_ended (ending : Ending) (c : Console) (events : List Event) :
    (Progress.ended ending c).turns events = [] := by
  cases events <;> rfl

theorem run_asked_of_stops {rest : List Event} (h : ∀ line, rest.head? ≠ some (.line line))
    (c : Console) : (Progress.awaits c).run rest = (.before rest.head?, c) := by
  cases rest with
  | nil => rfl
  | cons event rest =>
    cases event with
    | line line => exact absurd rfl (h line)
    | interrupt | endOfInput | failure => exact run_ended ..

/-- The loop plays what its session plays. -/
theorem run_ask {s : Session} {events rest : List Event} {lines : List String}
    (h : s.Plays events lines rest) (hs : c.session = s) (hl : c.sink.limit = none) :
    c.ask.run events =
      if s.QuitsAfter lines then (.quiet, c.played lines)
      else (.before rest.head?, (c.played lines).asked) := by
  -- Each turn ends where the next one starts: in a console that asks, with the next session.
  induction h generalizing c with
  | quits h =>
    subst hs
    rw [if_pos (Session.quitsAfter_singleton.2 h), ask_of_unlimited hl, Progress.run,
      hear_asked_of_quit hl h]
    exact run_ended ..
  | @goesOn s line lines events rest h hp ih =>
    subst hs
    rw [ask_of_unlimited hl, Progress.run, hear_asked_of_goesOn hl h,
      ih (c := c.asked.answered line) rfl hl]
    simp only [Session.quitsAfter_cons h]
    rfl
  | stops h =>
    rw [if_neg (Session.not_quitsAfter_nil _), ask_of_unlimited hl]
    exact run_asked_of_stops h _

/-- The loop has the session answer these lines, each in the state to which the ones before it have
led. -/
theorem turns_ask {s : Session} {events rest : List Event} {lines : List String}
    (h : s.Plays events lines rest) (hs : c.session = s) (hl : c.sink.limit = none) :
    c.ask.turns events = lines.mapIdx fun i line => (s.run (lines.take i), line) := by
  induction h generalizing c with
  | quits h =>
    subst hs
    rw [ask_of_unlimited hl, Progress.turns, hear_asked_of_quit hl h, turns_ended]
    rfl
  | @goesOn s line lines events rest h hp ih =>
    subst hs
    rw [ask_of_unlimited hl, Progress.turns, hear_asked_of_goesOn hl h,
      ih (c := c.asked.answered line) rfl hl, List.mapIdx_cons]
    rfl
  | @stops s rest h =>
    rw [ask_of_unlimited hl]
    cases rest with
    | nil => rfl
    | cons event rest =>
      cases event with
      | line line => exact absurd rfl (h line)
      | interrupt | endOfInput | failure => rfl

/-! ## Plays from the start -/

/-- The console that has shown the starting room. -/
def opened (s : Session) (echoes : Bool) : Console :=
  { session := s, sink := .empty none, echoes, prompts := [], history := [] : Console }.shown
    (printed [s.intro])

theorem start_eq_ask (s : Session) (echoes : Bool) :
    start s echoes (.empty none) = (opened s echoes).ask :=
  writeLines_of_unlimited (c := ⟨s, .empty none, echoes, [], []⟩) rfl ..

/-- The console at the end of a play: it has asked once more, unless the last line quits. -/
def finished (s : Session) (echoes : Bool) (lines : List String) : Console :=
  if s.QuitsAfter lines then (opened s echoes).played lines
  else ((opened s echoes).played lines).asked

theorem play_of_plays {s : Session} {events rest : List Event} {lines : List String}
    (h : s.Plays events lines rest) (echoes : Bool) :
    play s echoes none events =
      (if s.QuitsAfter lines then .quiet else .before rest.head?, finished s echoes lines) := by
  have hrun : (opened s echoes).ask.run events = _ := run_ask h rfl rfl
  rw [play, start_eq_ask, hrun, finished]
  split <;> rfl

theorem session_finished (s : Session) (echoes : Bool) (lines : List String) :
    (finished s echoes lines).session = s.run lines := by
  unfold finished
  split <;> exact session_played ..

theorem history_finished (s : Session) (echoes : Bool) (lines : List String) :
    (finished s echoes lines).history = lines := by
  unfold finished
  split <;> exact history_played ..

theorem prompts_finished (s : Session) (echoes : Bool) (lines : List String) :
    (finished s echoes lines).prompts =
      List.replicate (lines.length + if s.QuitsAfter lines then 0 else 1) prompt := by
  have hplayed : ((opened s echoes).played lines).prompts = List.replicate lines.length prompt :=
    prompts_played ..
  unfold finished
  split
  · exact hplayed
  · rw [List.replicate_succ', ← hplayed]
    rfl

theorem written_finished (s : Session) (echoes : Bool) (lines : List String) :
    (finished s echoes lines).sink.written =
      (printed [s.intro] ++ transcript echoes (s.answers lines) ++
        if s.QuitsAfter lines then "" else asking echoes).toUTF8 := by
  have hplayed : ((opened s echoes).played lines).sink.written =
      (printed [s.intro] ++ transcript echoes (s.answers lines)).toUTF8 := by
    rw [written_played]
    simp [opened, shown, Sink.empty]
  unfold finished
  split
  · rw [hplayed, String.append_empty]
  · have hasked : ((opened s echoes).played lines).asked.sink.written =
        ((opened s echoes).played lines).sink.written ++ (asking echoes).toUTF8 := by
      simp [asked, shown, opened]
    rw [hasked, hplayed]
    simp

theorem transcript_false (answers : List Response) :
    transcript false answers = printed (answers.flatMap fun r => question :: r.lines) := by
  induction answers with
  | nil => rfl
  | cons r answers ih =>
    have hcons : transcript false (r :: answers) =
        asking false ++ printed r.lines ++ transcript false answers := by
      simp [transcript]
    rw [hcons, ih, List.flatMap_cons, printed_append, ← List.singleton_append, printed_append]
    simp [asking]

/-- Of any events the loop plays the lines up to the first that is answered by quitting, or up to
the first event that is not a line. -/
theorem loop_plays_session (s : Session) (events : List Event) :
    ∃ lines rest, events = lines.map .line ++ rest ∧
      (∀ r ∈ (s.answers lines).dropLast, r.outcome = .goesOn) ∧
      (s.QuitsAfter lines ∨ ∀ line, rest.head? ≠ some (.line line)) ∧
      let result := play s false none events
      (start s false (.empty none)).turns events =
          lines.mapIdx (fun i line => (s.run (lines.take i), line)) ∧
        result.2.session = s.run lines ∧
        result.2.history = lines ∧
        result.2.prompts =
          List.replicate (lines.length + if s.QuitsAfter lines then 0 else 1) "> " ∧
        result.2.sink.written = (printed (s.intro ::
          (s.answers lines).flatMap (fun r => question :: r.lines) ++
            if s.QuitsAfter lines then [] else [question])).toUTF8 ∧
        (∀ reason, result.1 = .editorFailed reason ↔
          ¬s.QuitsAfter lines ∧ rest.head? = some (.failure reason)) ∧
        ((∀ reason, result.1 ≠ .editorFailed reason) → result.1 = .quiet) ∧
        ∀ others : List Event,
          others.take result.2.prompts.length = events.take result.2.prompts.length →
          play s false none others = result := by
  obtain ⟨lines, rest, h⟩ := s.exists_plays events
  refine ⟨lines, rest, h.events_eq, h.goesOn_of_mem_dropLast, h.quitsAfter_or, ?_⟩
  intro result
  have hresult : result = _ := play_of_plays h false
  have hreads : result.2.prompts.length = lines.length + if s.QuitsAfter lines then 0 else 1 := by
    rw [hresult, prompts_finished, List.length_replicate]
  refine ⟨?_, ?_, ?_, ?_, ?_, ?_, ?_, ?_⟩
  · rw [start_eq_ask]
    exact turns_ask h rfl rfl
  · rw [hresult]
    exact session_finished ..
  · rw [hresult]
    exact history_finished ..
  · rw [hresult]
    exact prompts_finished ..
  · have hlast : (if s.QuitsAfter lines then "" else asking false) =
        printed (if s.QuitsAfter lines then [] else [question]) := by
      split <;> rfl
    rw [hresult, written_finished, transcript_false, hlast, ← printed_append, ← printed_append]
    rfl
  · intro reason
    rw [hresult]
    by_cases hq : s.QuitsAfter lines
    · simp [hq]
    · simp [hq, Ending.before_eq_editorFailed_iff]
  · rw [hresult]
    split
    · exact fun _ => rfl
    · exact Ending.before_eq_quiet
  · intro others hothers
    rw [hreads] at hothers
    obtain ⟨rest', h', hrest⟩ := h.of_take_eq hothers
    rw [hresult, play_of_plays h' false]
    rcases hrest with hq | hhead
    · simp only [if_pos hq]
    · rw [hhead]

end Console

end TextAdventure
