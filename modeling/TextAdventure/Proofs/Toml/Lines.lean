import TextAdventure.Proofs.Toml.Spelling

/-!
# The lines of a TOML document

A line is read as a statement when it is read so whatever line end follows it (`ReadAs`). The lines
of a text are read one after the other, so that the document is what they state together
(`HasLines.parse?_eq`). Two kinds of lines are told here: the header of an array of tables, and a key
with a string.
-/

namespace TextAdventure.Toml

/-! ## Lines of a text -/

/-- The text has these lines, with the line end of any system after each. It need not end the last
line. -/
inductive HasLines : List (List Char) → List Char → Prop
  | nil : HasLines [] []
  | last (line : List Char) : HasLines [line] line
  | cons {line ending rest : List Char} {lines : List (List Char)}
    (hending : ending = ['\n'] ∨ ending = ['\r', '\n']) (h : HasLines lines rest) :
    HasLines (line :: lines) (line ++ (ending ++ rest))

/-- The lines, each with its end. -/
def unlines (lines : List (List Char)) : List Char :=
  lines.flatMap (· ++ ['\n'])

theorem hasLines_unlines (lines : List (List Char)) : HasLines lines (unlines lines) := by
  induction lines with
  | nil => exact .nil
  | cons line lines ih =>
    rw [unlines, List.flatMap_cons, List.append_assoc]
    exact .cons (.inl rfl) ih

/-- The line is over before `after`, and `rest` follows it. -/
inductive Over : List Char → List Char → Prop
  | text : Over [] []
  | newline (rest : List Char) : Over ('\n' :: rest) rest
  | returned (rest : List Char) : Over ('\r' :: '\n' :: rest) rest

theorem Over.nextLine?_eq {after rest : List Char} (h : Over after rest) :
    nextLine? after = some rest := by
  cases h <;> rfl

theorem Over.head_ne_quote {after rest : List Char} (h : Over after rest) :
    ∀ c ∈ after.head?, c ≠ '"' := by
  cases h with
  | text => rintro c ⟨⟩
  | newline | returned => rintro c ⟨⟩; decide

/-- The line is read as the statement wherever it is over. -/
structure ReadAs (line : List Char) (statement : Statement) : Prop where
  /-- It begins neither with a gap nor with a byte order mark. -/
  begins : ∃ c more, line = c :: more ∧ isGap c = false ∧ c ≠ '\ufeff'
  scan : ∀ {after rest : List Char}, Over after rest →
    scanLine? (line ++ after) = some (some statement, rest)

theorem ReadAs.scanLines?_append {line after rest : List Char} {statement : Statement}
    (h : ReadAs line statement) (hover : Over after rest) (fuel : Nat) :
    scanLines? (fuel + 1) (line ++ after) = (scanLines? fuel rest).map (statement :: ·) := by
  have scanned := h.scan hover
  obtain ⟨c, more, rfl, hgap, -⟩ := h.begins
  have solid : dropGap (c :: (more ++ after)) = c :: (more ++ after) :=
    List.dropWhile_cons_of_neg (by simp [hgap])
  rw [List.cons_append] at scanned ⊢
  simp only [scanLines?, solid, scanned, Option.bind_eq_bind, Option.bind_some,
    Option.toList_some, List.singleton_append]
  exact Option.map_eq_bind.symm

/-- What the lines of a text say, one after the other. -/
theorem HasLines.scanLines?_eq {lines : List (List Char)} {cs : List Char}
    {statements : List Statement} (h : HasLines lines cs)
    (hread : List.Forall₂ ReadAs lines statements) {fuel : Nat} (hfuel : cs.length < fuel) :
    scanLines? fuel cs = some statements := by
  induction h generalizing statements fuel with
  | nil =>
    cases hread
    obtain ⟨fuel, rfl⟩ := Nat.exists_eq_add_one_of_ne_zero (Nat.ne_of_gt hfuel)
    rfl
  | last line =>
    obtain _ | ⟨here, ⟨⟩⟩ := hread
    obtain ⟨c, more, hline, -⟩ := here.begins
    have room : 0 < line.length := by rw [hline]; exact Nat.succ_pos _
    obtain ⟨fuel, rfl⟩ : ∃ k, fuel = k + 2 := ⟨fuel - 2, by omega⟩
    rw [← List.append_nil line, here.scanLines?_append .text]
    rfl
  | @cons line ending rest lines hending _ ih =>
    obtain _ | ⟨here, later⟩ := hread
    have ended : Over (ending ++ rest) rest := by
      rcases hending with rfl | rfl
      · exact .newline rest
      · exact .returned rest
    have room : 0 < ending.length := by rcases hending with rfl | rfl <;> decide
    rw [List.length_append, List.length_append] at hfuel
    obtain ⟨fuel, rfl⟩ : ∃ k, fuel = k + 1 := ⟨fuel - 1, by omega⟩
    rw [here.scanLines?_append ended, ih later (by omega)]
    rfl

/-- The document of a text is built by what its lines say. -/
theorem HasLines.parse?_eq {lines : List (List Char)} {text : String}
    {statements : List Statement} (h : HasLines lines text.toList)
    (hread : List.Forall₂ ReadAs lines statements) : parse? text = Document.build statements := by
  have unmarked : dropMark text.toList = text.toList := by
    generalize text.toList = cs at h
    have head_ne {line rest : List Char} {statement : Statement} (hline : ReadAs line statement) :
        dropMark (line ++ rest) = line ++ rest := by
      obtain ⟨c, more, rfl, -, hmark⟩ := hline.begins
      unfold dropMark
      split
      · rename_i heq
        rw [List.cons_append, List.cons.injEq] at heq
        exact absurd heq.1 hmark
      · rfl
    cases h with
    | nil => rfl
    | last line =>
      obtain _ | ⟨here, -⟩ := hread
      rw [← List.append_nil cs]
      exact head_ne here
    | cons =>
      obtain _ | ⟨here, -⟩ := hread
      exact head_ne here
  simp only [parse?, unmarked, h.scanLines?_eq hread (Nat.lt_succ_self _), Option.bind_some]

/-! ## Keys -/

/-- May stand as a key without quotation marks. -/
structure BareName (name : String) : Prop where
  ne_nil : name.toList ≠ []
  isBare : name.toList.all isBare = true

theorem isBare_ne {c d : Char} (h : isBare c = true) (hd : isBare d = false) : c ≠ d := by
  rintro rfl
  rw [h] at hd
  cases hd

theorem BareName.isBare_of_mem {name : String} (h : BareName name) :
    ∀ c ∈ name.toList, Toml.isBare c = true :=
  List.all_eq_true.1 h.isBare

theorem BareName.exists_cons {name : String} (h : BareName name) :
    ∃ c more, name.toList = c :: more ∧ Toml.isBare c = true := by
  obtain ⟨c, more, heq⟩ := List.exists_cons_of_ne_nil h.ne_nil
  exact ⟨c, more, heq, h.isBare_of_mem c (by rw [heq]; exact List.mem_cons_self)⟩

theorem isGap_of_isBare {c : Char} (h : isBare c = true) : isGap c = false := by
  have space := isBare_ne h (d := ' ') (by decide)
  have tab := isBare_ne h (d := '\t') (by decide)
  simp [isGap, space, tab]

theorem BareName.scanName?_append {name : String} (h : BareName name) {rest : List Char}
    (hrest : ∀ c ∈ rest.head?, Toml.isBare c = false) :
    scanName? (name.toList ++ rest) = some (name, rest) := by
  have stops : rest.takeWhile Toml.isBare = [] ∧ rest.dropWhile Toml.isBare = rest := by
    cases rest with
    | nil => exact ⟨rfl, rfl⟩
    | cons c cs => simp [hrest c rfl]
  have taken : (name.toList ++ rest).takeWhile Toml.isBare = name.toList := by
    rw [List.takeWhile_append_of_pos h.isBare_of_mem, stops.1, List.append_nil]
  have left : (name.toList ++ rest).dropWhile Toml.isBare = rest := by
    rw [List.dropWhile_append_of_pos h.isBare_of_mem, stops.2]
  obtain ⟨c, more, heq, hc⟩ := h.exists_cons
  rw [heq, List.cons_append] at taken left ⊢
  rw [scanName?, taken, left]
  · simp only [← heq, String.ofList_toList]
  · rintro rest' ⟨⟩
    cases hc
  · rintro rest' ⟨⟩
    cases hc

/-- A key of one name, with a gap after it. -/
theorem BareName.scanKey?_append {name : String} (h : BareName name) {rest : List Char}
    (hrest : ∀ c ∈ rest.head?, Toml.isBare c = false)
    (hdot : ∀ more, dropGap rest ≠ '.' :: more) :
    scanKey? depthLimit (name.toList ++ rest) = some (⟨[], name⟩, dropGap rest) := by
  have solid : dropGap (name.toList ++ rest) = name.toList ++ rest := by
    obtain ⟨c, more, heq, hc⟩ := h.exists_cons
    rw [heq, List.cons_append]
    exact List.dropWhile_cons_of_neg (by simp [isGap_of_isBare hc])
  rw [depthLimit, scanKey?, solid, h.scanName?_append hrest]
  simp only [Option.bind_eq_bind, Option.bind_some]

/-! ## Kinds of lines -/

/-- A line that begins with a key is not over. -/
theorem nextLine?_eq_none {c : Char} (h : isBare c = true) (cs : List Char) :
    nextLine? (c :: cs) = none := by
  have solid : dropGap (c :: cs) = c :: cs :=
    List.dropWhile_cons_of_neg (by simp [isGap_of_isBare h])
  have said : dropComment (c :: cs) = c :: cs := by
    rw [dropComment]
    rintro rest ⟨⟩
    cases h
  rw [nextLine?, solid, said, endLine?, newline?]
  · rintro rest ⟨⟩
    cases h
  · rintro rest ⟨⟩
    cases h
  · rintro ⟨⟩

/-- A line that begins with a key is read as a pair. -/
theorem BareName.scanLine?_append {name : String} (h : BareName name) (rest : List Char) :
    scanLine? (name.toList ++ rest) =
      (scanPair? (scanValue? depthLimit) (name.toList ++ rest)).bind fun ((key, value), rest) =>
        (nextLine? rest).map fun rest => (some (.pair key value), rest) := by
  obtain ⟨c, more, heq, hc⟩ := h.exists_cons
  have unbracketed : c ≠ '[' := isBare_ne hc (by decide)
  rw [heq, List.cons_append, scanLine?, nextLine?_eq_none hc]
  · rfl
  · exact fun _ h => unbracketed (List.cons.inj h).1
  · exact fun _ h => unbracketed (List.cons.inj h).1

/-- A key of one name and a string. -/
theorem readAs_pair {name s : String} {cs : List Char} (hname : BareName name)
    (hstring : StringSpelled s cs) :
    ReadAs (name.toList ++ (" = ".toList ++ cs)) (.pair ⟨[], name⟩ (.string s)) := by
  obtain ⟨c, more, heq, hc⟩ := hname.exists_cons
  refine ⟨⟨c, _, by rw [heq, List.cons_append], isGap_of_isBare hc, isBare_ne hc (by decide)⟩, ?_⟩
  intro after rest hover
  have key : scanKey? depthLimit (name.toList ++ (" = ".toList ++ cs ++ after)) =
      some (⟨[], name⟩, '=' :: ' ' :: (cs ++ after)) := by
    refine hname.scanKey?_append ?_ ?_
    · rintro d ⟨⟩
      rfl
    · rintro d ⟨⟩
  have solid : dropGap (' ' :: (cs ++ after)) = cs ++ after := by
    obtain ⟨-⟩ := hstring
    rfl
  have pair : scanPair? (scanValue? depthLimit) (name.toList ++ (" = ".toList ++ cs ++ after)) =
      some ((⟨[], name⟩, .string s), after) := by
    simp only [scanPair?, key, solid, hstring.scanValue?_append hover.head_ne_quote,
      Option.bind_eq_bind, Option.bind_some]
  rw [List.append_assoc, hname.scanLine?_append, pair, Option.bind_some]
  change (nextLine? after).map _ = _
  rw [hover.nextLine?_eq]
  rfl

/-- The header of an array of tables. -/
theorem readAs_arrayHeader {name : String} (hname : BareName name) :
    ReadAs ("[[".toList ++ (name.toList ++ "]]".toList)) (.arrayHeader ⟨[], name⟩) := by
  refine ⟨⟨'[', _, rfl, by decide, by decide⟩, ?_⟩
  intro after rest hover
  have key : scanKey? depthLimit (name.toList ++ ("]]".toList ++ after)) =
      some (⟨[], name⟩, "]]".toList ++ after) := by
    refine hname.scanKey?_append ?_ ?_
    · rintro d ⟨⟩
      rfl
    · rintro d ⟨⟩
  change scanLine? ('[' :: '[' :: (name.toList ++ "]]".toList ++ after)) = _
  rw [List.append_assoc, scanLine?, key]
  change (nextLine? after).map _ = _
  rw [hover.nextLine?_eq]
  rfl

end TextAdventure.Toml
