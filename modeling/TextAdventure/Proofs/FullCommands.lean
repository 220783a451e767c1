import Mathlib.Tactic.ByContra
import TextAdventure.Command
import TextAdventure.Proofs.Resolution
import TextAdventure.Proofs.Words

/-!
# Commands typed in full

The standard aliases are there for short forms. A line that is a full command as it stands, however
its words are spaced, is the same command after resolving, with one exception: a line that begins
with `talk` and in which `to` does not come after exactly one space. It counts as the short form
`talk`, and then the name gets a second `to` (`AliasTable.full_command_kept_iff`).
-/

namespace TextAdventure

open Text (isBlank Cut words wordsOf joinWords)

/-! ## Full commands -/

namespace Command

/-- The verb is known and has what it needs. -/
def isFull : Command → Bool
  | empty | incomplete _ | unknown _ => false
  | look | inventory | quit | go _ | get _ | drop _ | use _ | talkTo _ => true

/-- The first words of full commands. -/
def verbs : List String :=
  ["look", "inventory", "quit", "go", "get", "drop", "use", "talk"]

theorem ofWords_unknown {verb : String} (h : verb ∉ verbs) (rest : List String) :
    ofWords (verb :: rest) = unknown verb := by
  simp only [verbs, List.mem_cons, List.not_mem_nil, or_false, not_or] at h
  simp [ofWords, h]

theorem ofWords_talk_of_ne {word : String} (h : word ≠ "to") (name : List String) :
    ofWords ("talk" :: word :: name) = incomplete .talk := by
  simp [ofWords, h]

theorem exists_verb_of_isFull {ws : List String} (h : (ofWords ws).isFull = true) :
    ∃ verb rest, ws = verb :: rest ∧ verb ∈ verbs ∧
      (verb = "talk" → ∃ name, rest = "to" :: name ∧ name ≠ []) := by
  cases ws with
  | nil => cases h
  | cons verb rest =>
    refine ⟨verb, rest, rfl, ?_, ?_⟩
    · by_contra hverb
      rw [ofWords_unknown hverb] at h
      cases h
    · rintro rfl
      cases rest with
      | nil => simp [ofWords, isFull] at h
      | cons word name =>
        by_cases hto : word = "to"
        · cases name with
          | nil => simp [ofWords, isFull, named, hto] at h
          | cons first name => exact ⟨_, by rw [hto], List.cons_ne_nil first name⟩
        · rw [ofWords_talk_of_ne hto] at h
          cases h

theorem ofWords_talk {name : List String} (h : name ≠ []) :
    ofWords ("talk" :: "to" :: name) = talkTo (joinWords name) := by
  cases name with
  | nil => exact absurd rfl h
  | cons first name => rfl

end Command

namespace AliasTable

variable {a : Alias} {raw rest : String}

/-! ## Replacing a phrase -/

theorem BeginsWith.of_cut {command : String} (hraw : raw = command ++ rest)
    (hcut : Cut rest.toList) : BeginsWith raw command := by
  cases hrest : rest.toList with
  | nil => exact .inl (by rw [hraw, String.toList_eq_nil_iff.1 hrest, String.append_empty])
  | cons c cs =>
    rw [hrest, Text.cut_cons] at hcut
    exact .inr ⟨c, cs, hcut, by rw [hraw, String.toList_append, hrest]⟩

/-- The words of the command come first, then those after the phrase. -/
theorem words_expand (hraw : raw = a.phrase ++ rest) :
    words (expand a raw) = words a.command ++ words rest := by
  have hdrop : raw.toList.drop a.phrase.length = rest.toList := by
    rw [hraw, String.toList_append, ← String.length_toList, List.drop_left]
  have hrest : words rest = (wordsOf (rest.toList.dropWhile isBlank)).map String.ofList := by
    rw [Text.wordsOf_dropWhile, words]
  rw [hrest, expand, hdrop]
  cases rest.toList.dropWhile isBlank with
  | nil => simp
  | cons c cs =>
    have hlist : words (String.ofList (c :: cs)) = (wordsOf (c :: cs)).map String.ofList := by
      rw [words, String.toList_ofList]
    exact hlist ▸ Text.words_append_space a.command (String.ofList (c :: cs))

/-! ## The standard aliases -/

/-- The short form of `talk to`. -/
def talk : Alias :=
  ⟨"talk", "talk to"⟩

/-- The line begins with `talk`, but not with `talk to` spelled with one space. -/
def Respaced (raw : String) : Prop :=
  "talk".toList <+: raw.toList ∧ ¬"talk to".toList <+: raw.toList

theorem isFull_phrase_standard :
    ∀ a ∈ standard.aliases, (Command.parse a.phrase).isFull = false := by
  decide +kernel

theorem head?_phrase_standard :
    ∀ a ∈ standard.aliases, a.phrase.toList.head?.any isBlank = false := by
  decide +kernel

/-- When a phrase goes on after a verb or a verb after a phrase, the phrase stands for the verb, or
both are `talk`. -/
theorem command_eq_verb_or_eq_talk : ∀ a ∈ standard.aliases, ∀ verb ∈ Command.verbs,
    a.phrase.toList <+: verb.toList ∨ verb.toList <+: a.phrase.toList →
      a.command = verb ∨ a = talk ∧ verb = "talk" := by
  decide +kernel

theorem talk_mem_standard : talk ∈ standard.aliases := by decide +kernel

theorem eq_talk_of_leads (ha : a ∈ standard.aliases) (hleads : leads a raw = true)
    (htalk : "talk".toList <+: raw.toList) : a = talk := by
  have hcommand : ∀ a ∈ standard.aliases, a.command ≠ "talk" := by decide +kernel
  have hprefix := List.prefix_or_prefix_of_prefix (leads_iff.1 hleads).2 htalk
  rcases command_eq_verb_or_eq_talk a ha "talk" (by decide) hprefix with heq | ⟨heq, -⟩
  · exact absurd heq (hcommand a ha)
  · exact heq

/-- A line that a phrase leads begins with a word. -/
theorem head?_of_leads (ha : a ∈ standard.aliases) (hleads : leads a raw = true) :
    ∀ c ∈ raw.toList.head?, isBlank c = false := by
  obtain ⟨hne, tail, htail⟩ := leads_iff.1 hleads
  have hhead := head?_phrase_standard a ha
  cases hphrase : a.phrase.toList with
  | nil => exact absurd (String.toList_eq_nil_iff.1 hphrase) hne
  | cons c cs =>
    rw [hphrase] at hhead
    rw [← htail, hphrase]
    rintro _ ⟨⟩
    exact hhead

/-! ## Full commands and aliases -/

/-- A full command that a phrase leads begins with the command of the phrase, or it is `talk to`
with a name. -/
theorem beginsWith_or_talk (h : (Command.parse raw).isFull = true) (ha : a ∈ standard.aliases)
    (hleads : leads a raw = true) :
    BeginsWith raw a.command ∨
      a = talk ∧ ∃ rest name, raw = "talk" ++ rest ∧ words raw = "talk" :: words rest ∧
        words rest = "to" :: name ∧ name ≠ [] := by
  obtain ⟨verb, ws, hwords, hverb, hname⟩ := Command.exists_verb_of_isFull h
  obtain ⟨rest, hraw, hcut, hrest⟩ :=
    Text.exists_eq_append_of_words hwords (head?_of_leads ha hleads)
  -- The phrase and the verb begin the same line, so one of them goes on after the other.
  have hprefix : verb.toList <+: raw.toList := hraw ▸ toList_prefix_append verb rest
  have hor := List.prefix_or_prefix_of_prefix (leads_iff.1 hleads).2 hprefix
  rcases command_eq_verb_or_eq_talk a ha verb hverb hor with hcommand | ⟨rfl, rfl⟩
  · exact .inl (hcommand ▸ .of_cut hraw hcut)
  · obtain ⟨name, hto, hne⟩ := hname rfl
    exact .inr ⟨rfl, rest, name, hraw, hrest.symm ▸ hwords, hrest.trans hto, hne⟩

/-- When one space stands between `talk` and `to`, the second word ends where `talk to` does. -/
theorem beginsWith_talk_to {name : List String} (hraw : raw = "talk" ++ rest)
    (hrest : words rest = "to" :: name) (hto : "talk to".toList <+: raw.toList) :
    BeginsWith raw "talk to" := by
  obtain ⟨tail, htail⟩ := Text.exists_eq_append_of_prefix hto
  have hsame : "talk" ++ rest = "talk" ++ (" " ++ ("to" ++ tail)) := by
    rw [← hraw, htail, ← String.append_assoc, ← String.append_assoc]
    rfl
  have hrest' : rest = "" ++ " " ++ ("to" ++ tail) := by
    rw [String.append_right_inj] at hsame
    rw [hsame, String.empty_append]
  have hwords : words ("to" ++ tail) = "to" :: name := by
    rw [← hrest, hrest', Text.words_append_space]
    rfl
  obtain ⟨tail', htail', hcut, -⟩ := Text.exists_eq_append_of_words hwords (by simp; decide)
  rw [String.append_right_inj] at htail'
  exact .of_cut htail (htail' ▸ hcut)

/-- The words after `talk to` make up the name; replacing `talk` puts a second `to` before them. -/
theorem parse_talk {name : List String} (hraw : raw = "talk" ++ rest)
    (hwords : words raw = "talk" :: words rest) (hrest : words rest = "to" :: name)
    (hne : name ≠ []) :
    Command.parse raw = .talkTo (joinWords name) ∧
      Command.parse (expand talk raw) = .talkTo ("to " ++ joinWords name) := by
  have hexpand : words (expand talk raw) = "talk" :: "to" :: "to" :: name := by
    have htalk : words talk.command = ["talk", "to"] := by decide +kernel
    rw [words_expand (a := talk) hraw, htalk, hrest]
    rfl
  have hjoin : joinWords ("to" :: name) = "to " ++ joinWords name := by
    rw [joinWords, String.intercalate_cons_of_ne_nil hne]
    rfl
  constructor
  · rw [Command.parse, hwords, hrest, Command.ofWords_talk hne]
  · rw [Command.parse, hexpand, Command.ofWords_talk (List.cons_ne_nil _ _), hjoin]

theorem of_resolves_full {out : String} (h : (Command.parse raw).isFull = true)
    (hr : standard.Resolves raw out) :
    ¬Respaced raw ∧ out = raw ∨
      Respaced raw ∧ ∃ name, Command.parse raw = .talkTo name ∧
        Command.parse out = .talkTo ("to " ++ name) := by
  cases hr with
  | named hnamed =>
    obtain ⟨ha, rfl⟩ := phrase_of_named? hnamed
    cases (isFull_phrase_standard _ ha).symm.trans h
  | plain _ hlongest =>
    refine .inl ⟨fun hrespaced => ?_, rfl⟩
    have htalk : leads talk raw = true := leads_iff.2 ⟨by decide, hrespaced.1⟩
    cases htalk.symm.trans (longest?_eq_none_iff.1 hlongest talk talk_mem_standard)
  | expanded _ hlongest hbegins =>
    refine .inl ⟨fun hrespaced => ?_, rfl⟩
    cases eq_talk_of_leads hlongest.mem hlongest.1 hrespaced.1
    exact hrespaced.2 hbegins.isPrefix
  | expand _ hlongest hbegins =>
    rcases beginsWith_or_talk h hlongest.mem hlongest.1 with
      hcommand | ⟨rfl, rest, name, hraw, hwords, hrest, hne⟩
    · exact absurd hcommand hbegins
    · refine .inr ⟨⟨(leads_iff.1 hlongest.1).2, fun hto => ?_⟩, joinWords name,
        parse_talk hraw hwords hrest hne⟩
      exact hbegins (beginsWith_talk_to hraw hrest hto)

/-- With the standard aliases a full command is the same command after resolving, unless the line
begins with `talk` and goes on otherwise than with one space and `to`. Then the command is to talk
to someone, and resolving puts a second `to` in front of the name. -/
theorem full_command_kept_iff (h : (Command.parse raw).isFull = true) :
    (Command.parse (standard.resolve raw) = Command.parse raw ↔ ¬Respaced raw) ∧
      (Respaced raw → ∃ name, Command.parse raw = .talkTo name ∧
        Command.parse (standard.resolve raw) = .talkTo ("to " ++ name)) := by
  rcases of_resolves_full h (resolves_resolve standard raw) with
    ⟨hspaced, hout⟩ | ⟨hrespaced, name, hraw, hout⟩
  · exact ⟨iff_of_true (by rw [hout]) hspaced, fun hrespaced => absurd hrespaced hspaced⟩
  · refine ⟨iff_of_false (fun heq => ?_) (not_not_intro hrespaced), fun _ => ⟨name, hraw, hout⟩⟩
    rw [hout, hraw, Command.talkTo.injEq] at heq
    have hlength := congrArg String.length heq
    rw [String.length_append] at hlength
    have hto : "to ".length = 3 := rfl
    omega

theorem talk_kept_with_one_space :
    (Command.parse "talk to guard\t").isFull = true ∧
      Command.parse (standard.resolve "talk to guard\t") = Command.parse "talk to guard\t" :=
  have hfull : (Command.parse "talk to guard\t").isFull = true := by decide +kernel
  ⟨hfull, (full_command_kept_iff hfull).1.2 (by unfold Respaced; decide +kernel)⟩

/-- With two spaces after `talk` the player asks for the guard and is told about `to guard`. -/
theorem talk_respaced_with_two_spaces :
    Command.parse "talk  to guard" = .talkTo "guard" ∧
      Command.parse (standard.resolve "talk  to guard") = .talkTo "to guard" := by
  decide +kernel

end AliasTable

end TextAdventure
