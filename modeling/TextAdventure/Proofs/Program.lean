import Mathlib.Data.List.Basic
import TextAdventure.Proofs.Lines
import TextAdventure.Proofs.Loading
import TextAdventure.Proofs.Loop
import TextAdventure.Proofs.Soundness

/-!
# The program plays the session's game

If what the arguments name cannot be loaded, the program writes nothing and fails; of a world and
aliases neither of which loads it reports the world. Otherwise it plays the lines of its input as
the loop plays them when they are its script, and shows the same, but for the editor's prompt after
each question (`CommandLine.run_plays_or_fails`). It plays in sound worlds only
(`CommandLine.WorldFrom.sound`).
-/

namespace TextAdventure

/-! ## Plays of lines alone -/

namespace Session

/-- Of lines alone either all are played or the last one that is played quits. -/
theorem Plays.quitsAfter_or_eq_nil {s : Session} {script lines : List String} {rest : List Event}
    (h : s.Plays (script.map .line) lines rest) : s.QuitsAfter lines ∨ rest = [] := by
  refine h.quitsAfter_or.imp_right fun hrest => ?_
  cases rest with
  | nil => rfl
  | cons event rest =>
    have hmem : event ∈ script.map Event.line := by
      rw [h.events_eq]
      simp
    obtain ⟨line, -, rfl⟩ := List.mem_map.1 hmem
    exact absurd rfl (hrest line)

end Session

namespace Console

/-- What is shown after each question. After one that nobody answers it is nothing. -/
def replies (s : Session) (lines : List String) : List String :=
  (s.answers lines).map (fun r => printed r.lines) ++ if s.QuitsAfter lines then [] else [""]

theorem written_finished_eq (s : Session) (echoes : Bool) (lines : List String) :
    (finished s echoes lines).sink.written =
      (s.intro ++ "\n" ++ String.join ((replies s lines).map (asking echoes ++ ·))).toUTF8 := by
  rw [written_finished, replies, transcript, List.map_append, String.join_append, List.map_map]
  split <;> simp [printed, Function.comp_def, ByteArray.append_assoc]

theorem asking_false : asking false = "What would you like to do?\n" := by
  decide +kernel

theorem asking_true : asking true = "What would you like to do?\n> " := by
  decide +kernel

/-- A script of lines is played quietly to its end, with the editor's prompts or without. -/
theorem exists_play_lines (s : Session) (script : List String) :
    ∃ lines, ∀ echoes, play s echoes none (script.map .line) =
      (.quiet, finished s echoes lines) := by
  obtain ⟨lines, rest, h⟩ := s.exists_plays (script.map .line)
  refine ⟨lines, fun echoes => ?_⟩
  rw [play_of_plays h]
  rcases h.quitsAfter_or_eq_nil with hq | rfl
  · rw [if_pos hq]
  · simp [Ending.before]

end Console

namespace CommandLine

/-! ## Arguments that name files -/

namespace Options

/-- May name a file: it is not empty and does not look like an option. -/
def IsFileName (arg : String) : Prop :=
  arg ≠ "" ∧ isOption arg = false

variable {o : Options} {file : String}

theorem IsFileName.startsWith_eq_false (h : IsFileName file) : file.startsWith "--" = false := by
  rw [Bool.eq_false_iff, Ne, String.startsWith_string_iff]
  rintro ⟨rest, hrest⟩
  have hoption := h.2
  simp [isOption, ← hrest] at hoption

theorem IsFileName.ne_dashes (h : IsFileName file) : file ≠ "--" := by
  rintro rfl
  exact absurd h.2 (by decide)

theorem request_world (h : IsFileName file) (ho : o.world = none) (args : List String) :
    o.request (file :: args) = request { o with world := some file } args := by
  rw [request.eq_def]
  simp [h.ne_dashes, h.startsWith_eq_false, h.1, h.2, withWorld?, ho]

theorem request_aliases (h : IsFileName file) (ho : o.aliases = none) (args : List String) :
    o.request ("--aliases" :: file :: args) = request { o with aliases := some file } args := by
  have hstarts : "--aliases".startsWith "--" = true := by decide +kernel
  have hlong : long "--aliases" = ("aliases", none) := by decide +kernel
  rw [request.eq_def]
  simp [hstarts, hlong, h.1, h.2, withAliases?, ho]

end Options

open Options in
/-- Each file may be named, or left out. -/
theorem ofArgs_of_files {world aliases : Option String} (hw : ∀ file ∈ world, IsFileName file)
    (ht : ∀ file ∈ aliases, IsFileName file) :
    Request.ofArgs (world.toList ++ aliases.toList.flatMap (["--aliases", ·])) =
      .play ⟨world, aliases, 0⟩ := by
  have haliases (world : Option String) :
      request ⟨world, none, 0⟩ (aliases.toList.flatMap (["--aliases", ·])) =
        .play ⟨world, aliases, 0⟩ := by
    cases aliases with
    | none => rfl
    | some file => exact request_aliases (ht file rfl) rfl []
  cases world with
  | none => exact haliases none
  | some file => exact (request_world (hw file rfl) rfl _).trans (haliases (some file))

/-! ## What is to be played -/

/-- The world of the file that may be named. Without one it is the sample. -/
inductive WorldFrom (read : String → Reading) : Option String → World → Prop
  | sample : WorldFrom read none .sample
  | file {path : String} {w : World} (h : World.load path (read path) = .ok w) :
      WorldFrom read (some path) w

/-- The aliases of the file that may be named. Without one they are the standard ones. -/
inductive AliasesFrom (read : String → Reading) : Option String → AliasTable → Prop
  | standard : AliasesFrom read none .standard
  | file {path : String} {t : AliasTable} (h : AliasTable.load path (read path) = .ok t) :
      AliasesFrom read (some path) t

/-- Whatever the program plays in is a sound world. -/
theorem WorldFrom.sound {read : String → Reading} {world : Option String} {w : World}
    (h : WorldFrom read world w) : w.Sound := by
  cases h with
  | sample => exact .of_ofDocument World.ofDocument_sample
  | file h =>
    obtain ⟨d, -, hd⟩ := World.exists_document_of_load h
    exact .of_ofDocument hd

variable {args : List String} {read : String → Reading} {o : Options} {path : String}
  {w : World} {t : AliasTable}

theorem loadWorld_of_from {world : Option String} (ho : o.world = world)
    (h : WorldFrom read world w) : loadWorld read o = .ok w := by
  cases h with
  | sample => simp [loadWorld, ho]
  | file h => simp [loadWorld, ho, h]

theorem loadAliases_of_from {aliases : Option String} (ho : o.aliases = aliases)
    (h : AliasesFrom read aliases t) : loadAliases read o = .ok t := by
  cases h with
  | standard => simp [loadAliases, ho]
  | file h => simp [loadAliases, ho, h]

/-- Whatever is said of the aliases. -/
theorem prepare_of_world_error {e : World.LoadError} (ho : o.world = some path)
    (h : World.load path (read path) = .error e) :
    prepare read o = .error s!"could not load world from {path}" := by
  have hworld : loadWorld read o = .error s!"could not load world from {path}" := by
    simp [loadWorld, ho, h]
  rw [prepare, hworld]
  rfl

theorem prepare_of_aliases_error {e : AliasTable.LoadError} (hw : WorldFrom read o.world w)
    (ho : o.aliases = some path) (h : AliasTable.load path (read path) = .error e) :
    prepare read o = .error s!"could not load aliases from {path}" := by
  have haliases : loadAliases read o = .error s!"could not load aliases from {path}" := by
    simp [loadAliases, ho, h]
  rw [prepare, loadWorld_of_from rfl hw, haliases]
  rfl

theorem prepare_of_from (hw : WorldFrom read o.world w) (ht : AliasesFrom read o.aliases t) :
    prepare read o = .ok (.start w t) := by
  rw [prepare, loadWorld_of_from rfl hw, loadAliases_of_from rfl ht]
  rfl

/-! ## Running -/

/-- A program that has ended reads no more. -/
theorem Stage.foldl_next_ended (lines : List (List UInt8)) (exit : Exit) :
    lines.foldl next (ended exit) = ended exit :=
  List.foldl_fixed' (fun _ => rfl) lines

theorem run_of_prepare_error {failure : String} (h : Request.ofArgs args = .play o)
    (hp : prepare read o = .error failure) (input : ByteArray) :
    run args read input = ⟨1, .empty, some failure⟩ := by
  have stage : Stage.ofRequest (.ofArgs args) read = .ended ⟨1, .empty, some failure⟩ := by
    rw [h, Stage.ofRequest, hp]
  rw [run, stage, Stage.foldl_next_ended]
  rfl

/-- The program hears line by line what the loop hears as events. -/
theorem exit_foldl_next {lines : List (List UInt8)} {events : List Event}
    (h : lines.map eventOf? = events.map some) (p : Progress) :
    (lines.foldl Stage.next (.ofProgress p)).exit =
      .ofEnding (p.run events).1 (p.run events).2.sink.written := by
  -- Each line is some event, so the editor never breaks down.
  induction lines generalizing p events with
  | nil =>
    obtain rfl : events = [] := by simpa using h.symm
    cases p <;> rfl
  | cons line lines ih =>
    cases events with
    | nil => simp at h
    | cons event events =>
      obtain ⟨hline, hlines⟩ := List.cons.inj h
      cases p with
      | ended ending c => rw [Stage.ofProgress, Stage.foldl_next_ended]; rfl
      | awaits c =>
        rw [List.foldl_cons, Stage.ofProgress, Stage.next, hline]
        exact ih hlines _

theorem run_of_prepare_ok {s : Session} {text : String} (h : Request.ofArgs args = .play o)
    (hp : prepare read o = .ok s) (htext : '\x08' ∉ text.toList) :
    let played := Console.play s true none ((Text.lines text).map .line)
    run args read text.toUTF8 = .ofEnding played.1 played.2.sink.written := by
  have stage : Stage.ofRequest (.ofArgs args) read =
      .ofProgress (Console.start s true (.empty none)) := by
    rw [h, Stage.ofRequest, hp]
  rw [run, stage]
  exact exit_foldl_next (events_of_text htext) _

/-- The program fails without a word if the world does not load, and otherwise if the aliases do not
load. Else it plays the lines of its input as the loop plays them as a script, and shows the editor's
prompt after each question. -/
theorem run_plays_or_fails (h : Request.ofArgs args = .play o) (read : String → Reading) :
    (∀ path e, o.world = some path → World.load path (read path) = .error e →
      ∀ input, run args read input =
        ⟨1, .empty, some s!"could not load world from {path}"⟩) ∧
    (∀ w path e, WorldFrom read o.world w →
      o.aliases = some path → AliasTable.load path (read path) = .error e →
      ∀ input, run args read input =
        ⟨1, .empty, some s!"could not load aliases from {path}"⟩) ∧
    ∀ w t text, WorldFrom read o.world w → AliasesFrom read o.aliases t → '\x08' ∉ text.toList →
      let s := Session.start w t
      let scripted := Console.play s false none ((Text.lines text).map .line)
      let shown (question : String) :=
        s.intro ++ "\n" ++ String.join ((Console.replies s scripted.2.history).map (question ++ ·))
      let exit := run args read text.toUTF8
      scripted.1 = .quiet ∧
        scripted.2.sink.written = (shown "What would you like to do?\n").toUTF8 ∧
        exit.code = 0 ∧ exit.failure = none ∧
        exit.output = (shown "What would you like to do?\n> ").toUTF8 := by
  refine ⟨?world, ?aliases, ?plays⟩
  case world =>
    intro path e ho hw
    exact run_of_prepare_error h (prepare_of_world_error ho hw)
  case aliases =>
    intro w path e hw ho ht
    exact run_of_prepare_error h (prepare_of_aliases_error hw ho ht)
  case plays =>
    intro w t text hw ht htext s scripted shown exit
    obtain ⟨lines, hplay⟩ := Console.exists_play_lines s (Text.lines text)
    have hscripted : scripted = (.quiet, Console.finished s false lines) := hplay false
    have hexit : exit = ⟨0, (Console.finished s true lines).sink.written, none⟩ := by
      have hrun := run_of_prepare_ok h (prepare_of_from hw ht) htext
      simp only [s, hplay true] at hrun
      exact hrun
    have hheard : scripted.2.history = lines := by
      rw [hscripted, Console.history_finished]
    have hshown {echoes : Bool} {question : String} (hq : Console.asking echoes = question) :
        (Console.finished s echoes lines).sink.written = (shown question).toUTF8 := by
      rw [Console.written_finished_eq, hq, ← hheard]
    refine ⟨?_, ?_, ?_, ?_, ?_⟩
    · rw [hscripted]
    · rw [hscripted]
      exact hshown Console.asking_false
    · rw [hexit]
    · rw [hexit]
    · rw [hexit]
      exact hshown Console.asking_true

/-- Of two files that are not there the world is reported; without any the sample is played, up to
the line that quits. When the files are there, their world is played with their aliases. -/
theorem castle_missing_and_sample_quit :
    let here : RoomId := { val := 1 }
    let hall : Room :=
      { Room.bare here "Hall" with paths := .ofList [("up", ⟨here, false⟩)] }
    let castle : World := ⟨here, [(here, hall)], by simp⟩
    let short : List Alias := [⟨"u", "go up"⟩]
    let absent : String → Reading := fun _ => .error .notFound
    let saved : String → Reading := fun path =>
      if path = "castle.json" then .ok (Document.format.print castle.document).toUTF8
      else if path = "short.toml" then .ok (AliasTable.written short).toUTF8
      else .error .notFound
    run ["castle.json", "--aliases", "short.toml"] absent .empty =
        ⟨1, .empty, some "could not load world from castle.json"⟩ ∧
      run ["--aliases", "short.toml"] absent .empty =
        ⟨1, .empty, some "could not load aliases from short.toml"⟩ ∧
      ((run [] absent "quit\r\nlook".toUTF8).code = 0 ∧
        (run [] absent "quit\r\nlook".toUTF8).output =
          ((Session.start .sample .standard).intro ++ "\n" ++
            "What would you like to do?\n> Goodbye!\n").toUTF8) ∧
      run ["castle.json", "--aliases", "tall.toml"] saved .empty =
        ⟨1, .empty, some "could not load aliases from tall.toml"⟩ ∧
      (run ["castle.json", "--aliases", "short.toml"] saved "u\nquit\n".toUTF8).code = 0 ∧
      (run ["castle.json", "--aliases", "short.toml"] saved "u\nquit\n".toUTF8).output =
        ("Hall\n" ++
          "What would you like to do?\n> You move up.\nHall\nYou can go up.\n" ++
          "What would you like to do?\n> Goodbye!\n").toUTF8 := by
  intro here hall castle short absent saved
  have named (file : String) (h : Options.IsFileName file) :
      ∀ f ∈ some file, Options.IsFileName f := by
    rintro _ ⟨⟩
    exact h
  have hcastle := named "castle.json" ⟨by decide, by decide⟩
  have hshort := named "short.toml" ⟨by decide, by decide⟩
  have htall := named "tall.toml" ⟨by decide, by decide⟩
  have hnone : ∀ file ∈ (none : Option String), Options.IsFileName file := by simp
  have sound : castle.Sound := .of_ofDocument (d := castle.document) (by decide)
  have proper : castle.document.Proper := by
    intro room hroom item hitem
    cases List.mem_singleton.1 hroom
    exact absurd hitem List.not_mem_nil
  have world : WorldFrom saved (some "castle.json") castle := .file (sound.load_print proper _)
  have aliases : AliasesFrom saved (some "short.toml") ⟨short⟩ :=
    .file (AliasTable.load_written (by decide) _)
  refine ⟨?_, ?_, ?_, ?_, ?_⟩
  · simpa [toString] using
      (run_plays_or_fails (ofArgs_of_files hcastle hshort) absent).1 _ _ rfl rfl .empty
  · simpa [toString] using
      (run_plays_or_fails (ofArgs_of_files hnone hshort) absent).2.1 _ _ _ .sample rfl rfl .empty
  · have hreplies : Console.replies (.start .sample .standard) (Console.play
        (.start .sample .standard) false none
        ((Text.lines "quit\r\nlook").map .line)).2.history = ["Goodbye!\n"] := by
      decide +kernel
    have hturns : String.join (["Goodbye!\n"].map ("What would you like to do?\n> " ++ ·)) =
        "What would you like to do?\n> Goodbye!\n" := by
      decide +kernel
    obtain ⟨-, -, hcode, -, houtput⟩ :=
      (run_plays_or_fails (ofArgs_of_files hnone hnone) absent).2.2 _ _ "quit\r\nlook"
        .sample .standard (by decide)
    refine ⟨hcode, houtput.trans ?_⟩
    rw [hreplies, ← hturns]
  · simpa [toString] using
      (run_plays_or_fails (ofArgs_of_files hcastle htall) saved).2.1 _ _ _ world rfl rfl .empty
  · have hreplies : Console.replies (.start castle ⟨short⟩) (Console.play
        (.start castle ⟨short⟩) false none
        ((Text.lines "u\nquit\n").map .line)).2.history =
          ["You move up.\nHall\nYou can go up.\n", "Goodbye!\n"] := by
      decide +kernel
    obtain ⟨-, -, hcode, -, houtput⟩ :=
      (run_plays_or_fails (ofArgs_of_files hcastle hshort) saved).2.2 _ _ "u\nquit\n"
        world aliases (by decide)
    refine ⟨hcode, houtput.trans ?_⟩
    rw [hreplies]
    decide +kernel

end CommandLine

end TextAdventure
