import TextAdventure.Proofs.Json.Spelling
import TextAdventure.Toml.Document

/-!
# Ways to write a TOML string

In a basic string any character may be escaped, by its code point in four or eight hexadecimal digits
or, if it has one, by its short escape. However a basic string is written, it is read back
(`StringSpelled.scanValue?_append`).
-/

namespace TextAdventure.Toml

open Json (IsHexDigit hexValue?_of_isHexDigit)

/-! ## Hexadecimal numbers -/

/-- The number is written in these hexadecimal digits. -/
def HexSpelled (n : Nat) (digits : List Char) : Prop :=
  ∃ values, List.Forall₂ IsHexDigit digits values ∧ n = values.foldl (fun m v => 16 * m + v) 0

theorem HexSpelled.hexNumber?_eq {n : Nat} {digits : List Char} (h : HexSpelled n digits) :
    Text.hexNumber? digits = some n := by
  have from_any {digits : List Char} {values : List Nat}
      (h : List.Forall₂ IsHexDigit digits values) (m : Nat) :
      digits.foldlM (fun n c => (Text.hexValue? c).map (16 * n + ·)) m =
        some (values.foldl (fun m v => 16 * m + v) m) := by
    induction h generalizing m with
    | nil => rfl
    | cons hdigit _ ih =>
      rw [List.foldlM_cons, (hexValue?_of_isHexDigit hdigit).1]
      exact ih _
  obtain ⟨values, hvalues, rfl⟩ := h
  exact from_any hvalues 0

theorem HexSpelled.hexChar?_eq {c : Char} {digits : List Char} (h : HexSpelled c.toNat digits) :
    Text.hexChar? digits = some c := by
  have valid : c.toNat.isValidChar := c.valid
  rw [Text.hexChar?, h.hexNumber?_eq, Option.bind_some, if_pos valid, Char.ofNat_toNat]

/-! ## Characters of a string -/

/-- The characters that have a short escape, each after the letter that stands for it. -/
def shortEscapes : List (Char × Char) :=
  [('"', '"'), ('\\', '\\'), ('b', '\x08'), ('t', '\t'), ('n', '\n'), ('f', '\x0c'), ('r', '\r')]

theorem unescape?_of_mem {e c : Char} (h : (e, c) ∈ shortEscapes) :
    e ≠ 'u' ∧ e ≠ 'U' ∧ unescape? e = some c := by
  have all : ∀ p ∈ shortEscapes, p.1 ≠ 'u' ∧ p.1 ≠ 'U' ∧ unescape? p.1 = some p.2 := by decide
  exact all _ h

/-- The character of a basic string is written so. -/
inductive CharSpelled : Char → List Char → Prop
  | plain {c : Char} (hquote : c ≠ '"') (hslash : c ≠ '\\') (hplain : isPlain c = true) :
    CharSpelled c [c]
  | short {e c : Char} (h : (e, c) ∈ shortEscapes) : CharSpelled c ['\\', e]
  | four {c : Char} {digits : List Char} (h : HexSpelled c.toNat digits)
    (hlength : digits.length = 4) : CharSpelled c ('\\' :: 'u' :: digits)
  | eight {c : Char} {digits : List Char} (h : HexSpelled c.toNat digits)
    (hlength : digits.length = 8) : CharSpelled c ('\\' :: 'U' :: digits)

theorem CharSpelled.exists_cons {c : Char} {cs : List Char} (h : CharSpelled c cs) :
    ∃ x rest, cs = x :: rest ∧ x ≠ '"' := by
  cases h with
  | plain hquote => exact ⟨_, _, rfl, hquote⟩
  | short | four | eight => exact ⟨_, _, rfl, by decide⟩

theorem CharSpelled.scanBasic?_append {c : Char} {cs : List Char} (h : CharSpelled c cs)
    (rest : List Char) :
    scanBasic? (cs ++ rest) = (scanBasic? rest).map fun (xs, rest) => (c :: xs, rest) := by
  cases h with
  | plain hquote hslash hplain =>
    rw [List.singleton_append, scanBasic?, if_pos hplain]
    · cases scanBasic? rest <;> rfl
    all_goals simp_all
  | short h =>
    obtain ⟨hu, hU, he⟩ := unescape?_of_mem h
    simp only [List.cons_append, List.nil_append]
    rw [scanBasic?, he]
    · cases scanBasic? rest <;> rfl
    all_goals simp_all
  | @four _ digits h hlength =>
    match digits, hlength with
    | [x₁, x₂, x₃, x₄], _ =>
      simp only [List.cons_append, List.nil_append]
      rw [scanBasic?, h.hexChar?_eq]
      cases scanBasic? rest <;> rfl
  | @eight _ digits h hlength =>
    match digits, hlength with
    | [x₁, x₂, x₃, x₄, x₅, x₆, x₇, x₈], _ =>
      simp only [List.cons_append, List.nil_append]
      rw [scanBasic?, h.hexChar?_eq]
      cases scanBasic? rest <;> rfl

/-! ## Strings -/

/-- The characters of a basic string are written so, one after the other. -/
inductive CharsSpelled : List Char → List Char → Prop
  | nil : CharsSpelled [] []
  | cons {c : Char} {text cs rest : List Char} (h : CharSpelled c cs)
    (hrest : CharsSpelled text rest) : CharsSpelled (c :: text) (cs ++ rest)

/-- The string is written so, as a basic string. -/
inductive StringSpelled : String → List Char → Prop
  | quoted {s : String} {cs : List Char} (h : CharsSpelled s.toList cs) :
    StringSpelled s ('"' :: (cs ++ ['"']))

theorem CharsSpelled.scanBasic?_append {text cs : List Char} (h : CharsSpelled text cs)
    (rest : List Char) : scanBasic? (cs ++ '"' :: rest) = some (text, rest) := by
  induction h with
  | nil => rw [List.nil_append, scanBasic?]
  | cons h _ ih =>
    rw [List.append_assoc, h.scanBasic?_append, ih]
    rfl

/-- Only three quotation marks open a string of several lines. -/
theorem scanString?_quote {cs : List Char} (h : ∀ more, cs ≠ '"' :: '"' :: more) :
    scanString? ('"' :: cs) = scanBasic? cs := by
  rw [scanString?]
  exact h

/-- A quotation mark that is not doubled closes the string, and an empty one is over with two. -/
theorem CharsSpelled.ne_quotes {text cs rest : List Char} (h : CharsSpelled text cs)
    (hrest : ∀ c ∈ rest.head?, c ≠ '"') (more : List Char) :
    cs ++ '"' :: rest ≠ '"' :: '"' :: more := by
  intro heq
  cases h with
  | nil =>
    rw [List.nil_append, List.cons.injEq] at heq
    rw [heq.2] at hrest
    exact hrest '"' rfl rfl
  | cons h _ =>
    obtain ⟨x, cs, rfl, hx⟩ := h.exists_cons
    rw [List.append_assoc, List.cons_append, List.cons.injEq] at heq
    exact hx heq.1

theorem scanFlat?_quote {cs rest : List Char} {s : String}
    (h : scanString? ('"' :: cs) = some (s.toList, rest)) :
    scanFlat? ('"' :: cs) = some (.string s, rest) := by
  rw [scanFlat?, h]
  · simp
  · rintro _ ⟨⟩
  · rintro _ ⟨⟩

/-- A string is read back however it is written, if no quotation mark follows. -/
theorem StringSpelled.scanValue?_append {s : String} {cs rest : List Char}
    (h : StringSpelled s cs) (hrest : ∀ c ∈ rest.head?, c ≠ '"') :
    scanValue? depthLimit (cs ++ rest) = some (.string s, rest) := by
  obtain ⟨h⟩ := h
  have read := scanString?_quote (h.ne_quotes hrest)
  rw [h.scanBasic?_append] at read
  rw [List.cons_append, List.append_assoc, List.singleton_append, depthLimit, scanValue?]
  · exact scanFlat?_quote read
  · rintro _ ⟨⟩
  · rintro _ ⟨⟩

/-! ## The usual way -/

theorem isHexDigit_low :
    ∀ n < 0x80, IsHexDigit (n / 16).digitChar (n / 16) ∧ IsHexDigit (n % 16).digitChar (n % 16) := by
  decide

theorem charSpelled_escapeChar (c : Char) : CharSpelled c (escapeChar c) := by
  unfold escapeChar
  -- The seven short escapes come first.
  iterate 7
    split
    · subst c
      exact .short (by decide)
  split
  · rename_i control
    have low : c.toNat < 0x80 := by
      simp only [Bool.or_eq_true, decide_eq_true_eq] at control
      omega
    obtain ⟨first, second⟩ := isHexDigit_low c.toNat low
    have zero : IsHexDigit '0' 0 := by decide
    refine .four ⟨[0, 0, c.toNat / 16, c.toNat % 16],
      .cons zero (.cons zero (.cons first (.cons second .nil))), ?_⟩ rfl
    simp only [List.foldl_cons, List.foldl_nil]
    omega
  · rename_i hquote hslash _ _ _ _ _ hcontrol
    refine .plain hquote hslash ?_
    simp only [Bool.or_eq_true, decide_eq_true_eq, not_or] at hcontrol
    simp only [isPlain, Bool.or_eq_true, Bool.and_eq_true, decide_eq_true_eq]
    exact .inr ⟨Nat.not_lt.1 hcontrol.1, hcontrol.2⟩

theorem charsSpelled_flatMap (text : List Char) : CharsSpelled text (text.flatMap escapeChar) := by
  induction text with
  | nil => exact .nil
  | cons c text ih =>
    rw [List.flatMap_cons]
    exact .cons (charSpelled_escapeChar c) ih

theorem stringSpelled_basic (s : String) : StringSpelled s (basic s) :=
  .quoted (charsSpelled_flatMap s.toList)

end TextAdventure.Toml
