import TextAdventure.Proofs.Loop

/-!
# Output that fails

The loop on an output that accepts only so many bytes does what it does on one that never fails, up
to the first byte that does not fit (`Progress.CutAt`). There it ends, and only what had not been
shown yet is lost: the output holds as many of the bytes as fit, and every line that has been heard
has been answered (`Console.output_is_cut_at_limit`).
-/

namespace TextAdventure

/-! ## Bytes that fit -/

theorem extract_append_of_le {a b : ByteArray} {n : Nat} (h : n ≤ a.size) :
    (a ++ b).extract 0 n = a.extract 0 n := by
  rw [ByteArray.extract_append, Nat.sub_eq_zero_of_le h, Nat.zero_sub, ByteArray.extract_same,
    ByteArray.append_empty]

theorem extract_append_of_ge {a b : ByteArray} {n : Nat} (h : a.size ≤ n) :
    (a ++ b).extract 0 n = a ++ b.extract 0 (n - a.size) := by
  rw [ByteArray.extract_append, Nat.zero_sub]
  congr 1
  exact ByteArray.ext (by rw [ByteArray.data_extract]; exact Array.extract_eq_self_of_le h)

/-- The console that the loop has come to. -/
def Progress.console : Progress → Console
  | .awaits c => c
  | .ended _ c => c

namespace Console

variable {c c' c'' : Console}

/-! ## What is shown and heard stays -/

/-- The console has become `c'`: it has had `lines` answered, and more has been shown and asked. -/
structure LeadsTo (c : Console) (lines : List String) (c' : Console) : Prop where
  written : ∃ more, c'.sink.written = c.sink.written ++ more
  prompts : c.prompts <+: c'.prompts
  history : c'.history = c.history ++ lines
  session : c'.session = c.session.run lines

namespace LeadsTo

variable {lines lines' : List String}

theorem refl (c : Console) : c.LeadsTo [] c :=
  ⟨⟨.empty, ByteArray.append_empty.symm⟩, List.prefix_refl _, (List.append_nil _).symm, rfl⟩

theorem trans (h : c.LeadsTo lines c') (h' : c'.LeadsTo lines' c'') :
    c.LeadsTo (lines ++ lines') c'' where
  written := by
    obtain ⟨more, hw⟩ := h.written
    obtain ⟨more', hw'⟩ := h'.written
    exact ⟨more ++ more', by rw [hw', hw, ByteArray.append_assoc]⟩
  prompts := h.prompts.trans h'.prompts
  history := by rw [h'.history, h.history, List.append_assoc]
  session := by
    rw [h'.session, h.session]
    exact List.foldl_append.symm

end LeadsTo

/-- Going on with `next`, the loop hears nothing and takes nothing back. -/
def OnlyShows (next : Console → Progress) : Prop :=
  ∀ c : Console, c.LeadsTo [] (next c).console

theorem leadsTo_write (c : Console) (text : String) :
    c.LeadsTo [] { c with sink := (c.sink.write text).2 } := by
  have more : ∃ more, (c.sink.write text).2.written = c.sink.written ++ more := by
    simp only [Sink.write]
    split
    · exact ⟨_, rfl⟩
    · split
      · exact ⟨_, rfl⟩
      · exact ⟨_, rfl⟩
  exact ⟨more, List.prefix_refl _, (List.append_nil _).symm, rfl⟩

namespace OnlyShows

variable {next : Console → Progress}

theorem write (h : OnlyShows next) (text : String) : OnlyShows fun c => c.write text next := by
  intro c
  have written := leadsTo_write c text
  simp only [Console.write]
  split
  · rename_i sink hwrite
    rw [hwrite] at written
    exact written.trans (h _)
  · rename_i sink hwrite
    rw [hwrite] at written
    exact written

theorem writeLines (h : OnlyShows next) (lines : List String) :
    OnlyShows fun c => c.writeLines lines next := by
  induction lines with
  | nil => exact h
  | cons line lines ih => exact ih.write (line ++ "\n")

end OnlyShows

theorem onlyShows_awaits : OnlyShows .awaits :=
  LeadsTo.refl

theorem onlyShows_ended (ending : Ending) : OnlyShows (.ended ending) :=
  LeadsTo.refl

/-- The console that has asked the editor, and has not been told yet. -/
def prompted (c : Console) : Console :=
  { c with prompts := c.prompts ++ [prompt] }

theorem leadsTo_prompted (c : Console) : c.LeadsTo [] c.prompted :=
  ⟨⟨.empty, ByteArray.append_empty.symm⟩, List.prefix_append _ _, (List.append_nil _).symm, rfl⟩

/-- What follows the question. -/
def await (c : Console) : Progress :=
  if c.prompted.echoes then c.prompted.write prompt .awaits else .awaits c.prompted

theorem onlyShows_await : OnlyShows await := by
  intro c
  refine (leadsTo_prompted c).trans ?_
  unfold await
  split
  · exact onlyShows_awaits.write prompt c.prompted
  · exact LeadsTo.refl _

theorem onlyShows_ask : OnlyShows ask :=
  onlyShows_await.writeLines [question]

/-- What follows the answer. -/
def proceed (outcome : Outcome) (c : Console) : Progress :=
  match outcome with
  | .quit => .ended .quiet c
  | .goesOn => c.ask

theorem onlyShows_proceed (outcome : Outcome) : OnlyShows (proceed outcome) := by
  cases outcome with
  | quit => exact onlyShows_ended .quiet
  | goesOn => exact onlyShows_ask

/-- The console that has heard a line, before its answer is shown. -/
def heard (c : Console) (line : String) : Console :=
  { c with session := c.session.next line, history := c.history ++ [line] }

theorem leadsTo_heard (c : Console) (line : String) : c.LeadsTo [line] (c.heard line) :=
  ⟨⟨.empty, ByteArray.append_empty.symm⟩, List.prefix_refl _, rfl, rfl⟩

theorem hear_line_eq (c : Console) (line : String) :
    c.hear (.line line) =
      (c.heard line).writeLines (c.session.handle line).1.lines
        (proceed (c.session.handle line).1.outcome) :=
  rfl

theorem leadsTo_hear_line (c : Console) (line : String) :
    c.LeadsTo [line] (c.hear (.line line)).console := by
  rw [hear_line_eq]
  exact (leadsTo_heard c line).trans ((onlyShows_proceed _).writeLines _ _)

end Console

/-- A run answers the lines that it adds to the history, each in the state to which the ones before
it have led. -/
theorem Progress.exists_leadsTo_run (p : Progress) (events : List Event) :
    ∃ lines, p.console.LeadsTo lines (p.run events).2 ∧
      p.turns events = lines.mapIdx fun i line => (p.console.session.run (lines.take i), line) := by
  induction events generalizing p with
  | nil => cases p <;> exact ⟨[], .refl _, rfl⟩
  | cons event events ih =>
    cases p with
    | ended ending c => exact ⟨[], .refl _, rfl⟩
    | awaits c =>
      cases event with
      | line line =>
        obtain ⟨lines, hleads, hturns⟩ := ih (c.hear (.line line))
        have hheard := c.leadsTo_hear_line line
        refine ⟨line :: lines, hheard.trans hleads, ?_⟩
        rw [turns, hturns, hheard.session, List.mapIdx_cons]
        rfl
      | interrupt | endOfInput | failure =>
        rw [run, Console.hear, Console.run_ended]
        exact ⟨[], .refl _, rfl⟩

/-! ## Limited and unlimited output -/

namespace Console

/-- The console on an output with a limit. -/
def limited (limit : Nat) (c : Console) : Console :=
  { c with sink := { c.sink with limit := some limit } }

/-- What the console has shown on an unlimited output would fit a limited one. -/
structure Fits (limit : Nat) (c : Console) : Prop where
  unlimited : c.sink.limit = none
  fits : c.sink.written.size ≤ limit

end Console

/-- What has come of the loop on limited output, compared with unlimited output: both go on alike,
both have ended alike, or the first has ended at the limit, which the second has passed. -/
inductive Progress.CutAt (limit : Nat) : Progress → Progress → Prop
  | awaits {c : Console} (h : c.Fits limit) : CutAt limit (.awaits (c.limited limit)) (.awaits c)
  | ended {c : Console} {ending : Ending} (h : c.Fits limit) (he : ending ≠ .outputFailed) :
    CutAt limit (.ended ending (c.limited limit)) (.ended ending c)
  | failed {c : Console} {p : Progress}
      (hw : c.sink.written = p.console.sink.written.extract 0 limit)
      (hlt : limit < p.console.sink.written.size) (hp : c.prompts <+: p.console.prompts)
      (hh : c.history <+: p.console.history) : CutAt limit (.ended .outputFailed c) p

namespace Console

variable {c : Console} {limit : Nat} {next : Console → Progress}

/-- Going on with `next` from a console that fits, the loop on limited output is cut at the limit. -/
def CutsAt (limit : Nat) (next : Console → Progress) : Prop :=
  ∀ c : Console, c.Fits limit → Progress.CutAt limit (next (c.limited limit)) (next c)

theorem cutsAt_awaits (limit : Nat) : CutsAt limit .awaits :=
  fun _ => .awaits

theorem cutsAt_ended (limit : Nat) : CutsAt limit (.ended .quiet) :=
  fun _ h => .ended h Ending.noConfusion

theorem write_limited_of_le {text : String}
    (h : c.sink.written.size + text.toUTF8.size ≤ limit) (next : Console → Progress) :
    (c.limited limit).write text next = next ((c.shown text).limited limit) := by
  have hwrite : (c.limited limit).sink.write text = (true, ((c.shown text).limited limit).sink) :=
    if_pos h
  rw [write, hwrite]
  rfl

theorem write_limited_of_lt {text : String}
    (h : limit < c.sink.written.size + text.toUTF8.size) (next : Console → Progress) :
    (c.limited limit).write text next = .ended .outputFailed
      { c with sink := ⟨c.sink.written ++ text.toUTF8.extract 0 (limit - c.sink.written.size),
          some limit⟩ } := by
  have hwrite : (c.limited limit).sink.write text = (false,
      ⟨c.sink.written ++ text.toUTF8.extract 0 (limit - c.sink.written.size), some limit⟩) :=
    if_neg (Nat.not_le.2 h)
  rw [write, hwrite]
  rfl

namespace CutsAt

theorem write (h : CutsAt limit next) (hs : OnlyShows next) (text : String) :
    CutsAt limit fun c => c.write text next := by
  intro c hc
  simp only [write_of_unlimited hc.unlimited]
  by_cases hfits : c.sink.written.size + text.toUTF8.size ≤ limit
  · rw [write_limited_of_le hfits]
    exact h _ ⟨hc.unlimited, by rwa [shown, ByteArray.size_append]⟩
  · rw [Nat.not_le] at hfits
    -- The unlimited output has passed the limit with this text, whatever it shows later.
    have hlater := hs (c.shown text)
    obtain ⟨more, hmore⟩ := hlater.written
    have hpassed : limit < (c.shown text).sink.written.size := by
      rwa [shown, ByteArray.size_append]
    rw [write_limited_of_lt hfits]
    refine .failed ?_ ?_ hlater.prompts ?_
    · rw [hmore, extract_append_of_le (Nat.le_of_lt hpassed), shown, extract_append_of_ge hc.fits]
    · rw [hmore, ByteArray.size_append]
      omega
    · rw [hlater.history]
      exact List.prefix_append _ _

theorem writeLines (h : CutsAt limit next) (hs : OnlyShows next) (lines : List String) :
    CutsAt limit fun c => c.writeLines lines next := by
  induction lines with
  | nil => exact h
  | cons line lines ih => exact ih.write (hs.writeLines lines) (line ++ "\n")

end CutsAt

theorem cutsAt_await (limit : Nat) : CutsAt limit await := by
  intro c hc
  have hprompted : c.prompted.Fits limit := ⟨hc.unlimited, hc.fits⟩
  have same : (c.limited limit).prompted = c.prompted.limited limit := rfl
  have echo : (c.prompted.limited limit).echoes = c.prompted.echoes := rfl
  rw [await, await, same, echo]
  split
  · exact (cutsAt_awaits limit).write onlyShows_awaits prompt c.prompted hprompted
  · exact .awaits hprompted

theorem cutsAt_ask (limit : Nat) : CutsAt limit ask :=
  (cutsAt_await limit).writeLines onlyShows_await [question]

theorem cutsAt_proceed (limit : Nat) (outcome : Outcome) : CutsAt limit (proceed outcome) := by
  cases outcome with
  | quit => exact cutsAt_ended limit
  | goesOn => exact cutsAt_ask limit

theorem cutsAt_hear (limit : Nat) (event : Event) : CutsAt limit (hear · event) := by
  intro c hc
  cases event with
  | line line =>
    exact (cutsAt_proceed limit _).writeLines (onlyShows_proceed _) _ (c.heard line)
      ⟨hc.unlimited, hc.fits⟩
  | interrupt | endOfInput | failure => exact .ended hc Ending.noConfusion

end Console

namespace Progress.CutAt

variable {limit : Nat} {p q : Progress}

/-- What the loop on unlimited output does later does not matter any more. -/
theorem run_of_failed {c : Console}
    (hw : c.sink.written = q.console.sink.written.extract 0 limit)
    (hlt : limit < q.console.sink.written.size) (hp : c.prompts <+: q.console.prompts)
    (hh : c.history <+: q.console.history) (events : List Event) :
    CutAt limit (.ended .outputFailed c) (.ended (q.run events).1 (q.run events).2) := by
  obtain ⟨lines, hleads, -⟩ := q.exists_leadsTo_run events
  obtain ⟨more, hmore⟩ := hleads.written
  refine .failed ?_ ?_ (hp.trans hleads.prompts) (hh.trans ?_)
  · rw [hw, console, hmore, extract_append_of_le (Nat.le_of_lt hlt)]
  · rw [console, hmore, ByteArray.size_append]
    omega
  · rw [console, hleads.history]
    exact List.prefix_append _ _

theorem run (h : p.CutAt limit q) (events : List Event) :
    CutAt limit (.ended (p.run events).1 (p.run events).2)
      (.ended (q.run events).1 (q.run events).2) := by
  induction events generalizing p q with
  | nil =>
    cases h with
    | awaits h => exact .ended h Ending.noConfusion
    | ended h he => exact .ended h he
    | failed hw hlt hp hh => exact run_of_failed hw hlt hp hh []
  | cons event events ih =>
    cases h with
    | @awaits c h => exact ih (Console.cutsAt_hear limit event c h)
    | ended h he => exact .ended h he
    | failed hw hlt hp hh => exact run_of_failed hw hlt hp hh (event :: events)

/-- What the two loops have come to when both have ended. -/
theorem of_ended {ending ending' : Ending} {c c' : Console}
    (h : CutAt limit (.ended ending c) (.ended ending' c')) :
    c.sink.written = c'.sink.written.extract 0 limit ∧
      (ending = .outputFailed ↔ limit < c'.sink.written.size) ∧
      (c'.sink.written.size ≤ limit → ending = ending' ∧ c = c'.limited limit) ∧
      c.prompts <+: c'.prompts ∧ c.history <+: c'.history := by
  cases h with
  | ended h he =>
    refine ⟨?_, iff_of_false he (Nat.not_lt.2 h.fits), fun _ => ⟨rfl, rfl⟩, List.prefix_refl _,
      List.prefix_refl _⟩
    exact (ByteArray.ext (by
      rw [ByteArray.data_extract]; exact Array.extract_eq_self_of_le h.fits)).symm
  | failed hw hlt hp hh =>
    exact ⟨hw, iff_of_true rfl hlt, fun hle => absurd hle (Nat.not_le.2 hlt), hp, hh⟩

end Progress.CutAt

namespace Console

theorem cutAt_start (s : Session) (echoes : Bool) (limit : Nat) :
    Progress.CutAt limit (start s echoes (.empty (some limit))) (start s echoes (.empty none)) :=
  (cutsAt_ask limit).writeLines onlyShows_ask [s.intro] ⟨s, .empty none, echoes, [], []⟩
    ⟨rfl, Nat.zero_le _⟩

/-- On an output of `limit` bytes the loop shows as many of the bytes as fit. It fails if there are
more, and does otherwise what it does on an output that never fails. When it fails, it has read and
heard no more than it would have otherwise, and the lines heard have been answered, each once and in
order, and no others. -/
theorem output_is_cut_at_limit (s : Session) (echoes : Bool) (limit : Nat) (events : List Event) :
    let full := play s echoes none events
    let cut := play s echoes (some limit) events
    let bytes := full.2.sink.written
    cut.2.sink.written = bytes.extract 0 limit ∧
      (cut.1 = .outputFailed ↔ limit < bytes.size) ∧
      (bytes.size ≤ limit → cut.2.sink.written = bytes ∧ cut.1 = full.1 ∧
        cut.2.session = full.2.session ∧ cut.2.history = full.2.history ∧
        cut.2.prompts = full.2.prompts) ∧
      cut.2.prompts <+: full.2.prompts ∧ cut.2.history <+: full.2.history ∧
      cut.2.session = s.run cut.2.history ∧
      (start s echoes (.empty (some limit))).turns events =
        cut.2.history.mapIdx fun i line => (s.run (cut.2.history.take i), line) := by
  intro full cut bytes
  obtain ⟨hwritten, hfailed, hsame, hprompts, hhistory⟩ :=
    ((cutAt_start s echoes limit).run events).of_ended
  have hbegins : LeadsTo ⟨s, .empty (some limit), echoes, [], []⟩ []
      (start s echoes (.empty (some limit))).console := onlyShows_ask.writeLines [s.intro] _
  obtain ⟨lines, hleads, hturns⟩ :=
    (start s echoes (.empty (some limit))).exists_leadsTo_run events
  have hplayed := hbegins.trans hleads
  have hlines : cut.2.history = lines := hplayed.history
  refine ⟨hwritten, hfailed, fun hle => ?_, hprompts, hhistory, ?_, ?_⟩
  · obtain ⟨hending, hconsole⟩ := hsame hle
    exact ⟨(congrArg (·.sink.written) hconsole :), hending, (congrArg session hconsole :),
      (congrArg history hconsole :), (congrArg prompts hconsole :)⟩
  · rw [hlines]
    exact hplayed.session
  · rw [hturns, hlines, hbegins.session]
    rfl

end Console

end TextAdventure
