import TextAdventure.Proofs.Resolution
import TextAdventure.Proofs.Words

/-!
# What input is rewritten to

Input that is a phrase becomes the command of the first alias with this phrase; other input has the
longest phrase in front of it replaced, unless it begins with the command already
(`AliasTable.resolve_told_by_phrases`). The search may as well measure phrases in octets, and the
input may be cut at the octet where the phrase ends: the cut never goes through a character
(`AliasTable.resolveByOctets?_eq`).
-/

namespace TextAdventure

open Text (isBlank)

/-! ## Texts and their octets -/

namespace Text

/-- The text from octet `n` on; nothing if that is past its end or within a character. -/
def sliceFrom? (s : String) (n : Nat) : Option String :=
  if h : String.Pos.Raw.IsValid s ⟨n⟩ then
    some ⟨s.toByteArray.extract n s.utf8ByteSize, h.isValidUTF8_extract_utf8ByteSize⟩
  else none

/-- A text can be cut after each text in front of it. -/
theorem sliceFrom?_append (s t : String) : sliceFrom? (s ++ t) s.utf8ByteSize = some t := by
  have hvalid : String.Pos.Raw.IsValid (s ++ t) ⟨s.utf8ByteSize⟩ :=
    String.Pos.Raw.isValid_iff_exists_append.2 ⟨s, t, rfl, rfl⟩
  rw [sliceFrom?, dif_pos hvalid, Option.some.injEq, ← String.toByteArray_inj]
  exact ByteArray.extract_append_eq_right rfl String.utf8ByteSize_append

/-- Of two texts in front of the same text, the one with more characters has more octets. -/
theorem utf8ByteSize_lt_iff {s t u : String} (hs : s.toList <+: u.toList)
    (ht : t.toList <+: u.toList) : s.utf8ByteSize < t.utf8ByteSize ↔ s.length < t.length := by
  have longer {s t : String} (h : s.toList <+: t.toList) :
      (s.utf8ByteSize < t.utf8ByteSize ↔ s.length < t.length) ∧
        ¬t.utf8ByteSize < s.utf8ByteSize ∧ ¬t.length < s.length := by
    obtain ⟨rest, rfl⟩ := exists_eq_append_of_prefix h
    have hsize : rest.utf8ByteSize = 0 ↔ rest.length = 0 := by
      rw [String.utf8ByteSize_eq_zero_iff, String.length_eq_zero_iff]
    rw [String.utf8ByteSize_append, String.length_append]
    omega
  rcases List.prefix_or_prefix_of_prefix hs ht with h | h
  · exact (longer h).1
  · exact iff_of_false (longer h).2.1 (longer h).2.2

end Text

namespace AliasTable

variable {t : AliasTable} {a b : Alias} {l : List Alias} {raw : String}

/-! ## Measuring phrases in octets -/

/-- The later alias only if its phrase has more octets. -/
def longerByOctets (best : Option Alias) (a : Alias) : Option Alias :=
  match best with
  | none => some a
  | some b => if b.phrase.utf8ByteSize < a.phrase.utf8ByteSize then some a else some b

theorem longerByOctets_eq {best : Option Alias} (hbest : ∀ b ∈ best, leads b raw = true)
    (ha : leads a raw = true) : longerByOctets best a = longer best a := by
  cases best with
  | none => rfl
  | some b =>
    have hlt : b.phrase.utf8ByteSize < a.phrase.utf8ByteSize ↔ b.phrase.length < a.phrase.length :=
      Text.utf8ByteSize_lt_iff (leads_iff.1 (hbest b rfl)).2 (leads_iff.1 ha).2
    simp only [longerByOctets, longer, hlt]

theorem foldl_longerByOctets {best : Option Alias} (hbest : ∀ b ∈ best, leads b raw = true)
    (hl : ∀ a ∈ l, leads a raw = true) : l.foldl longerByOctets best = l.foldl longer best := by
  induction l generalizing best with
  | nil => rfl
  | cons a l ih =>
    rw [List.forall_mem_cons] at hl
    rw [List.foldl_cons, List.foldl_cons, longerByOctets_eq hbest hl.1]
    refine ih (fun b hb => ?_) hl.2
    cases best with
    | none =>
      cases hb
      exact hl.1
    | some c =>
      rw [longer] at hb
      split at hb
      · cases hb
        exact hl.1
      · exact hbest b hb

/-- The search for the longest phrase, with phrases measured in octets. -/
def longestByOctets? (t : AliasTable) (raw : String) : Option Alias :=
  (t.aliases.filter (leads · raw)).foldl longerByOctets none

theorem longestByOctets?_eq (t : AliasTable) (raw : String) :
    t.longestByOctets? raw = t.longest? raw :=
  foldl_longerByOctets (fun _ hb => by cases hb) fun _ ha => (List.mem_filter.1 ha).2

/-! ## Cutting the input -/

/-- The command, with the text after it unless that is blank. -/
def withRest (command tail : String) : String :=
  match tail.toList.dropWhile isBlank with
  | [] => command
  | rest => command ++ " " ++ String.ofList rest

theorem expand_append (a : Alias) (tail : String) :
    expand a (a.phrase ++ tail) = withRest a.command tail := by
  have hdrop : (a.phrase ++ tail).toList.drop a.phrase.length = tail.toList := by
    rw [String.toList_append, ← String.length_toList, List.drop_left]
  rw [withRest, ← hdrop]
  rfl

/-- Blanks in front of the text after the command do not matter. -/
theorem withRest_append {gap rest : String} (hgap : ∀ c ∈ gap.toList, isBlank c = true)
    (hrest : ∀ c ∈ rest.toList.head?, isBlank c = false) (command : String) :
    withRest command (gap ++ rest) = if rest = "" then command else command ++ " " ++ rest := by
  have hdrop : (gap ++ rest).toList.dropWhile isBlank = rest.toList := by
    rw [String.toList_append, List.dropWhile_append_of_pos hgap]
    cases hcs : rest.toList with
    | nil => rfl
    | cons c cs =>
      rw [hcs] at hrest
      rw [List.dropWhile_cons_of_neg (by simp [hrest c rfl])]
  rw [withRest, hdrop]
  by_cases hempty : rest = ""
  · simp [hempty]
  · have hne : rest.toList ≠ [] := fun h => hempty (String.toList_eq_nil_iff.1 h)
    rw [if_neg hempty]
    split
    · rename_i hnil
      exact absurd hnil hne
    · rw [String.ofList_toList]

/-- Every text is blanks and a rest that does not begin with one. -/
theorem exists_gap_append (s : String) :
    ∃ gap rest, s = gap ++ rest ∧ (∀ c ∈ gap.toList, isBlank c = true) ∧
      ∀ c ∈ rest.toList.head?, isBlank c = false := by
  refine ⟨String.ofList (s.toList.takeWhile isBlank), String.ofList (s.toList.dropWhile isBlank),
    ?_, ?_, ?_⟩
  · rw [← String.ofList_append, List.takeWhile_append_dropWhile, String.ofList_toList]
  · simpa using List.all_eq_true.1 (List.all_takeWhile (p := isBlank) (l := s.toList))
  · intro c hc
    have hstop := List.head?_dropWhile_not isBlank s.toList
    rw [String.toList_ofList] at hc
    rw [Option.mem_def.1 hc] at hstop
    simpa using hstop

/-- Resolving on octets: the phrases are measured in octets, and the input is cut at the octet where
the phrase ends; nothing if it cannot be cut there. -/
def resolveByOctets? (t : AliasTable) (raw : String) : Option String :=
  match t.named? raw with
  | some a => some a.command
  | none =>
    match t.longestByOctets? raw with
    | none => some raw
    | some a =>
      if isExpanded raw a.command then some raw
      else (Text.sliceFrom? raw a.phrase.utf8ByteSize).map (withRest a.command)

theorem resolveByOctets?_eq (t : AliasTable) (raw : String) :
    t.resolveByOctets? raw = some (t.resolve raw) := by
  unfold resolveByOctets? resolve
  rw [longestByOctets?_eq]
  cases t.named? raw with
  | some a => rfl
  | none =>
    cases hlongest : t.longest? raw with
    | none => rfl
    | some a =>
      have hleads := (longest?_eq_some_iff.1 hlongest).1
      obtain ⟨tail, rfl⟩ := Text.exists_eq_append_of_prefix (leads_iff.1 hleads).2
      simp only [Text.sliceFrom?_append, Option.map_some, expand_append]
      split <;> rfl

/-! ## Resolving -/

theorem named?_eq_some {before after : List Alias} (hsplit : t.aliases = before ++ a :: after)
    (ha : a.phrase = raw) (hbefore : ∀ b ∈ before, b.phrase ≠ raw) : t.named? raw = some a := by
  rw [named?, hsplit, List.find?_eq_some_iff_append]
  exact ⟨by simpa using ha, before, after, rfl, by simpa using hbefore⟩

theorem named?_eq_none_iff : t.named? raw = none ↔ ∀ a ∈ t.aliases, a.phrase ≠ raw := by
  simp [named?]

theorem exists_foremost (h : ∃ a ∈ t.aliases, a.phrase ≠ "" ∧ a.phrase.toList <+: raw.toList) :
    ∃ a, t.Foremost raw a := by
  obtain ⟨a, ha, hleads⟩ := h
  cases hlongest : t.longest? raw with
  | some b => exact ⟨b, longest?_eq_some_iff.1 hlongest⟩
  | none =>
    have hnot := longest?_eq_none_iff.1 hlongest a ha
    rw [leads_iff.2 hleads] at hnot
    cases hnot

/-- Input that is a phrase becomes the command of the first alias with this phrase. Else, if no
phrase but the empty one stands in front of it, it stays as it is. Else the alias is the first with
the longest phrase in front of it: the input stays as it is if it is the command or begins with the
command and a blank; otherwise the command takes the place of the phrase and of the blanks after it,
with one space before the rest, if there is one. Octets lead to the same as characters: no cut ever
goes through a character or past the end. -/
theorem resolve_told_by_phrases (t : AliasTable) (raw : String) :
    (∀ before a after, t.aliases = before ++ a :: after → a.phrase = raw →
        (∀ b ∈ before, b.phrase ≠ raw) → t.resolve raw = a.command) ∧
      ((∀ a ∈ t.aliases, a.phrase ≠ raw) →
        ((∀ a ∈ t.aliases, a.phrase ≠ "" → ¬a.phrase.toList <+: raw.toList) →
            t.resolve raw = raw) ∧
          ((∃ a ∈ t.aliases, a.phrase ≠ "" ∧ a.phrase.toList <+: raw.toList) →
            ∃ a gap rest, t.Foremost raw a ∧ raw = a.phrase ++ (gap ++ rest) ∧
              (∀ c ∈ gap.toList, isBlank c = true) ∧
              (∀ c ∈ rest.toList.head?, isBlank c = false) ∧
              (BeginsWith raw a.command → t.resolve raw = raw) ∧
              (¬BeginsWith raw a.command → t.resolve raw =
                if rest = "" then a.command else a.command ++ " " ++ rest))) ∧
      t.resolveByOctets? raw = some (t.resolve raw) := by
  refine ⟨fun before a after hsplit ha hbefore => ?_, fun hno => ⟨fun hnone => ?_, fun hsome => ?_⟩,
    resolveByOctets?_eq t raw⟩
  · rw [resolve, named?_eq_some hsplit ha hbefore]
  · have hlongest : t.longest? raw = none := longest?_eq_none_iff.2 fun a ha =>
      Bool.eq_false_iff.2 fun hl => hnone a ha (leads_iff.1 hl).1 (leads_iff.1 hl).2
    rw [resolve, named?_eq_none_iff.2 hno, hlongest]
  · obtain ⟨a, hforemost⟩ := exists_foremost hsome
    obtain ⟨tail, htail⟩ := Text.exists_eq_append_of_prefix (leads_iff.1 hforemost.1).2
    obtain ⟨gap, rest, hgaprest, hgap, hrest⟩ := exists_gap_append tail
    have hresolve : t.resolve raw = if isExpanded raw a.command then raw else expand a raw := by
      rw [resolve, named?_eq_none_iff.2 hno, longest?_eq_some_iff.2 hforemost]
    refine ⟨a, gap, rest, hforemost, hgaprest ▸ htail, hgap, hrest, fun hbegins => ?_,
      fun hbegins => ?_⟩
    · rw [hresolve, if_pos (isExpanded_iff.2 hbegins)]
    · rw [hresolve, if_neg fun h => hbegins (isExpanded_iff.1 h), htail, hgaprest, expand_append,
        withRest_append hgap hrest]

/-- Of two phrases in front of the input the longer one counts, and of two aliases for it the first;
its octets are more than its characters, and the blank after it is more than one octet. -/
theorem summer_is_rest :
    let t : AliasTable :=
      ⟨[⟨"", "look"⟩, ⟨"é", "go east"⟩, ⟨"été", "rest"⟩, ⟨"été", "go south"⟩]⟩
    let raw := "été\u2003 here"
    t.resolve "été" = "rest" ∧
      (∀ a ∈ t.aliases, a.phrase ≠ raw) ∧
      (∃ a ∈ t.aliases, a.phrase ≠ "" ∧ a.phrase.toList <+: raw.toList) ∧
      (∃ gap rest, raw = "été" ++ (gap ++ rest) ∧ (∀ c ∈ gap.toList, isBlank c = true) ∧
        (∀ c ∈ rest.toList.head?, isBlank c = false) ∧
        t.resolve raw = if rest = "" then "rest" else "rest" ++ " " ++ rest) ∧
      t.resolveByOctets? raw = some "rest here" := by
  intro t raw
  have named : t.resolve "été" = "rest" :=
    (resolve_told_by_phrases t "été").1 [⟨"", "look"⟩, ⟨"é", "go east"⟩] ⟨"été", "rest"⟩
      [⟨"été", "go south"⟩] rfl rfl (by decide +kernel)
  have unnamed : ∀ a ∈ t.aliases, a.phrase ≠ raw := by decide +kernel
  have led : ∃ a ∈ t.aliases, a.phrase ≠ "" ∧ a.phrase.toList <+: raw.toList := by decide +kernel
  obtain ⟨a, gap, rest, hforemost, hraw, hgap, hrest, -, hresolve⟩ :=
    ((resolve_told_by_phrases t raw).2.1 unnamed).2 led
  have hlongest : t.longest? raw = some ⟨"été", "rest"⟩ := by decide +kernel
  cases (longest?_eq_some_iff.2 hforemost).symm.trans hlongest
  have hbegins : ¬BeginsWith raw "rest" := fun h =>
    absurd (isExpanded_iff.2 h) (by decide +kernel)
  exact ⟨named, unnamed, led, ⟨gap, rest, hraw, hgap, hrest, hresolve hbegins⟩,
    (resolve_told_by_phrases t raw).2.2.trans (by decide +kernel)⟩

end AliasTable

end TextAdventure
