import TextAdventure.Proofs.FullCommands

/-!
# Names and words

A name is a text that consists of its words with one space between them, and of at least one; a word
is a name without blanks. What is asked for by name in a command has such a name, and a direction is
a word; all names and all words can be asked for, so that these are exactly the commands that input
can tell (`Command.exists_parse_eq_iff`).
-/

namespace TextAdventure

open Text (isBlank words wordsOf joinWords)

namespace Text

variable {s n w : String} {ws : List String}

/-! ## Names and words -/

/-- Not empty, and made of its words with one space between each and the next. -/
def IsName (s : String) : Prop :=
  s ≠ "" ∧ joinWords (words s) = s

/-- A name without blanks. -/
def IsWord (s : String) : Prop :=
  IsName s ∧ ∀ c ∈ s.toList, isBlank c = false

instance (s : String) : Decidable (IsName s) :=
  inferInstanceAs (Decidable (_ ∧ _))

instance (s : String) : Decidable (IsWord s) :=
  inferInstanceAs (Decidable (_ ∧ _))

theorem words_eq_singleton (hne : w ≠ "") (hsolid : ∀ c ∈ w.toList, isBlank c = false) :
    words w = [w] := by
  have hlist : w.toList ≠ [] := fun h => hne (String.toList_eq_nil_iff.1 h)
  rw [words, wordsOf_of_solid hsolid hlist, List.map_singleton, String.ofList_toList]

theorem IsWord.words_eq (h : IsWord w) : words w = [w] :=
  words_eq_singleton h.1.1 h.2

theorem isWord_iff : IsWord w ↔ w ≠ "" ∧ ∀ c ∈ w.toList, isBlank c = false := by
  refine ⟨fun h => ⟨h.1.1, h.2⟩, fun ⟨hne, hsolid⟩ => ⟨⟨hne, ?_⟩, hsolid⟩⟩
  rw [words_eq_singleton hne hsolid, joinWords, String.intercalate_singleton]

theorem isWord_of_mem_words (h : w ∈ words s) : IsWord w := by
  obtain ⟨cs, hcs, rfl⟩ := List.mem_map.1 h
  obtain ⟨hne, hsolid⟩ := solid_of_mem_wordsOf hcs
  rw [isWord_iff, String.toList_ofList]
  exact ⟨fun hempty => hne (String.ofList_eq_empty_iff.1 hempty), hsolid⟩

/-- Words that are joined are the words of what comes out. -/
theorem words_joinWords (h : ∀ w ∈ ws, IsWord w) : words (joinWords ws) = ws := by
  induction ws with
  | nil => rfl
  | cons w ws ih =>
    rw [List.forall_mem_cons] at h
    cases ws with
    | nil => rw [joinWords, String.intercalate_singleton, h.1.words_eq]
    | cons v vs =>
      have hjoin : joinWords (w :: v :: vs) = w ++ " " ++ joinWords (v :: vs) :=
        String.intercalate_cons_cons
      rw [hjoin, words_append_space, h.1.words_eq, ih h.2]
      rfl

theorem words_joinWords_words (s : String) : words (joinWords (words s)) = words s :=
  words_joinWords fun _ => isWord_of_mem_words

theorem isName_joinWords (hne : ws ≠ []) (h : ∀ w ∈ ws, IsWord w) : IsName (joinWords ws) := by
  refine ⟨fun hempty => hne ?_, by rw [words_joinWords h]⟩
  rw [← words_joinWords h, hempty]
  rfl

theorem IsName.words_ne_nil (h : IsName n) : words n ≠ [] := by
  intro hnil
  rw [IsName, hnil] at h
  exact h.1 h.2.symm

end Text

open Text (IsName IsWord)

/-! ## What input can tell -/

/-- The verb by itself. -/
def Verb.word : Verb → String
  | use => "use"
  | go => "go"
  | get => "get"
  | drop => "drop"
  | talk => "talk"

namespace Command

variable {c : Command} {ws : List String}

/-- What is asked for by name has a name, the direction is a word, and what is not understood is a
word that is not a verb. -/
def WellNamed : Command → Prop
  | empty | look | inventory | quit | incomplete _ => True
  | get name | drop name | use name | talkTo name => IsName name
  | go direction => IsWord direction
  | unknown word => IsWord word ∧ word ∉ verbs

/-- The command in words. -/
def text : Command → String
  | empty => ""
  | look => "look"
  | inventory => "inventory"
  | quit => "quit"
  | go direction => "go " ++ direction
  | get name => "get " ++ name
  | drop name => "drop " ++ name
  | use name => "use " ++ name
  | talkTo name => "talk to " ++ name
  | incomplete verb => verb.word
  | unknown word => word

theorem wellNamed_named {verb : Verb} {make : String → Command}
    (hmake : ∀ name, IsName name → (make name).WellNamed) (h : ∀ w ∈ ws, IsWord w) :
    (named verb make ws).WellNamed := by
  cases ws with
  | nil => trivial
  | cons w ws => exact hmake _ (Text.isName_joinWords (List.cons_ne_nil w ws) h)

theorem wellNamed_ofWords (h : ∀ w ∈ ws, IsWord w) : (ofWords ws).WellNamed := by
  cases ws with
  | nil => trivial
  | cons verb rest =>
    rw [List.forall_mem_cons] at h
    by_cases hverb : verb ∈ verbs
    · -- One case for each verb, in the order of `verbs`.
      simp only [verbs, List.mem_cons, List.not_mem_nil, or_false] at hverb
      rcases hverb with rfl | rfl | rfl | rfl | rfl | rfl | rfl | rfl
      · trivial
      · trivial
      · trivial
      · cases rest with
        | nil => trivial
        | cons direction rest => exact h.2 direction List.mem_cons_self
      · exact wellNamed_named (fun _ hname => hname) h.2
      · exact wellNamed_named (fun _ hname => hname) h.2
      · exact wellNamed_named (fun _ hname => hname) h.2
      · cases rest with
        | nil => trivial
        | cons word name =>
          rw [List.forall_mem_cons] at h
          by_cases hto : word = "to"
          · subst hto
            exact wellNamed_named (fun _ hname => hname) h.2.2
          · rw [ofWords_talk_of_ne hto]
            trivial
    · rw [ofWords_unknown hverb]
      exact ⟨h.1, hverb⟩

theorem wellNamed_parse (s : String) : (parse s).WellNamed :=
  wellNamed_ofWords fun _ => Text.isWord_of_mem_words

theorem parse_joinWords_words (s : String) : parse (joinWords (words s)) = parse s := by
  rw [parse, parse, Text.words_joinWords_words]

/-- A verb that takes a name is told with the name after it. -/
theorem parse_append_name {front : List String} {v name : String} {verb : Verb}
    {make : String → Command} (hv : words v = front)
    (hfront : ∀ ws, ofWords (front ++ ws) = named verb make ws) (h : IsName name) :
    parse (v ++ " " ++ name) = make name := by
  obtain ⟨w, ws, hwords⟩ := List.exists_cons_of_ne_nil h.words_ne_nil
  have hjoin : joinWords (w :: ws) = name := hwords ▸ h.2
  rw [parse, Text.words_append_space, hv, hfront, hwords, named, hjoin]
  exact List.cons_ne_nil w ws

theorem parse_text (h : c.WellNamed) : parse c.text = c := by
  cases c with
  | empty | look | inventory | quit => decide +kernel
  | incomplete verb => cases verb <;> decide +kernel
  | go direction =>
    have hwords : words ("go " ++ direction) = "go" :: words direction :=
      Text.words_append_space "go" direction
    rw [text, parse, hwords, IsWord.words_eq h]
    rfl
  | get name =>
    have hverb : words "get" = ["get"] := by decide +kernel
    change parse ("get" ++ " " ++ name) = _
    exact parse_append_name hverb (fun _ => rfl) h
  | drop name =>
    have hverb : words "drop" = ["drop"] := by decide +kernel
    change parse ("drop" ++ " " ++ name) = _
    exact parse_append_name hverb (fun _ => rfl) h
  | use name =>
    have hverb : words "use" = ["use"] := by decide +kernel
    change parse ("use" ++ " " ++ name) = _
    exact parse_append_name hverb (fun _ => rfl) h
  | talkTo name =>
    have hverb : words "talk to" = ["talk", "to"] := by decide +kernel
    change parse ("talk to" ++ " " ++ name) = _
    exact parse_append_name hverb (fun _ => rfl) h
  | unknown word =>
    obtain ⟨hword, hverb⟩ := h
    rw [text, parse, hword.words_eq, ofWords_unknown hverb]

/-- Input can tell exactly the commands with proper names and directions. -/
theorem exists_parse_eq_iff : (∃ s, parse s = c) ↔ c.WellNamed := by
  constructor
  · rintro ⟨s, rfl⟩
    exact wellNamed_parse s
  · exact fun h => ⟨c.text, parse_text h⟩

end Command

end TextAdventure
