import Mathlib.Data.List.Chain
import TextAdventure.Json.Token

/-!
# Ways to write a token

A number may have its exponent after either letter, a string may have any of its characters escaped,
and blanks may stand between tokens. However the tokens of a list are laid out as a text
(`Token.Layout`), they are read back, if no two numbers stand side by side (`Token.Layout.scan_eq`).
-/

namespace TextAdventure.Json

/-! ## Numerals -/

namespace Numeral

/-- What a numeral that is not over goes on with. -/
def goesOn (c : Char) : Bool :=
  c.isDigit || c = '.' || c = 'e' || c = 'E'

/-- A numeral in front of these characters is over. -/
def Stops (rest : List Char) : Prop :=
  ∀ c ∈ rest.head?, goesOn c = false

/-- Digits, and at least one of them. -/
structure Digits (cs : List Char) : Prop where
  ne_nil : cs ≠ []
  isDigit : ∀ c ∈ cs, c.isDigit = true

/-- The fraction is written so. -/
inductive FractionSpelled : Option (List Char) → List Char → Prop
  | none : FractionSpelled none []
  | some {digits : List Char} (h : Digits digits) : FractionSpelled (some digits) ('.' :: digits)

/-- The sign of an exponent, negative or not, is written so. -/
inductive SignSpelled : Bool → List Char → Prop
  | minus : SignSpelled true ['-']
  | plus : SignSpelled false ['+']
  | none : SignSpelled false []

/-- The exponent is written so. -/
inductive ExponentSpelled : Option (Bool × List Char) → List Char → Prop
  | none : ExponentSpelled none []
  | some {mark : Char} {negative : Bool} {sign digits : List Char} (hmark : mark = 'e' ∨ mark = 'E')
    (hsign : SignSpelled negative sign) (h : Digits digits) :
    ExponentSpelled (some (negative, digits)) (mark :: (sign ++ digits))

/-- The numeral is written so. Its whole part begins with a zero only if it is nothing else. -/
inductive Spelled : Numeral → List Char → Prop
  | parts {negative : Bool} {whole : List Char} {fraction : Option (List Char)}
    {exponent : Option (Bool × List Char)} {cs cs' : List Char} (hwhole : Digits whole)
    (hzero : whole.head? = some '0' → whole = ['0']) (hfraction : FractionSpelled fraction cs)
    (hexponent : ExponentSpelled exponent cs') :
    Spelled ⟨negative, whole, fraction, exponent⟩
      ((if negative then ['-'] else []) ++ whole ++ cs ++ cs')

theorem Digits.exists_cons {cs : List Char} (h : Digits cs) :
    ∃ c rest, cs = c :: rest ∧ c.isDigit = true := by
  obtain ⟨c, rest, rfl⟩ := List.exists_cons_of_ne_nil h.ne_nil
  exact ⟨c, rest, rfl, h.isDigit c List.mem_cons_self⟩

theorem scanDigits?_append {digits rest : List Char} (h : Digits digits)
    (hrest : ∀ c ∈ rest.head?, c.isDigit = false) :
    scanDigits? (digits ++ rest) = some (digits, rest) := by
  have none_left : rest.takeWhile Char.isDigit = [] ∧ rest.dropWhile Char.isDigit = rest := by
    cases rest with
    | nil => exact ⟨rfl, rfl⟩
    | cons c cs => simp [hrest c rfl]
  unfold scanDigits?
  rw [List.takeWhile_append_of_pos h.isDigit, List.dropWhile_append_of_pos h.isDigit, none_left.1,
    none_left.2, List.append_nil]
  obtain ⟨c, cs, rfl, -⟩ := h.exists_cons
  rfl

theorem scanWhole?_append {whole rest : List Char} (h : Digits whole)
    (hzero : whole.head? = some '0' → whole = ['0'])
    (hrest : ∀ c ∈ rest.head?, c.isDigit = false) :
    scanWhole? (whole ++ rest) = some (whole, rest) := by
  unfold scanWhole?
  rw [scanDigits?_append h hrest]
  split
  · rename_i heq
    cases heq
    cases hzero rfl
  · rfl

theorem scanFraction?_append {fraction : Option (List Char)} {cs rest : List Char}
    (h : FractionSpelled fraction cs)
    (hrest : ∀ c ∈ rest.head?, c.isDigit = false ∧ c ≠ '.') :
    scanFraction? (cs ++ rest) = some (fraction, rest) := by
  cases h with
  | none =>
    rw [List.nil_append]
    unfold scanFraction?
    split
    · exact absurd rfl (hrest _ rfl).2
    · rfl
  | some h =>
    rw [List.cons_append, scanFraction?, scanDigits?_append h fun c hc => (hrest c hc).1]
    rfl

theorem scanSign_append {negative : Bool} {sign digits : List Char} (h : SignSpelled negative sign)
    (hd : Digits digits) (rest : List Char) :
    scanSign (sign ++ (digits ++ rest)) = (negative, digits ++ rest) := by
  cases h with
  | minus | plus => rfl
  | none =>
    obtain ⟨c, cs, rfl, hc⟩ := hd.exists_cons
    simp only [List.nil_append, List.cons_append]
    unfold scanSign
    split
    · rename_i heq
      cases heq
      cases hc
    · rename_i heq
      cases heq
      cases hc
    · rfl

theorem scanExponent?_append {exponent : Option (Bool × List Char)} {cs rest : List Char}
    (h : ExponentSpelled exponent cs) (hrest : Stops rest) :
    scanExponent? (cs ++ rest) = some (exponent, rest) := by
  cases h with
  | none =>
    cases rest with
    | nil => rfl
    | cons c cs =>
      have ends := hrest c rfl
      simp only [goesOn, Bool.or_eq_false_iff, decide_eq_false_iff_not] at ends
      rw [List.nil_append, scanExponent?, if_neg (by simp [ends])]
  | @some mark negative sign digits hmark hsign h =>
    have ends : ∀ c ∈ rest.head?, c.isDigit = false := fun c hc => by
      have := hrest c hc
      simp only [goesOn, Bool.or_eq_false_iff] at this
      exact this.1.1.1
    rw [List.cons_append, List.append_assoc, scanExponent?, if_pos hmark,
      scanSign_append hsign h rest, scanDigits?_append h ends]
    rfl

/-- No digit follows where the exponent, if there is one, is about to begin. -/
theorem head?_exponent {exponent : Option (Bool × List Char)} {cs rest : List Char}
    (h : ExponentSpelled exponent cs) (hrest : Stops rest) :
    ∀ c ∈ (cs ++ rest).head?, c.isDigit = false ∧ c ≠ '.' := by
  intro c hc
  cases h with
  | none =>
    have ends := hrest c hc
    simp only [goesOn, Bool.or_eq_false_iff, decide_eq_false_iff_not] at ends
    exact ⟨ends.1.1.1, ends.1.1.2⟩
  | some hmark =>
    cases hc
    rcases hmark with rfl | rfl <;> decide

theorem head?_fraction {fraction : Option (List Char)} {cs rest : List Char}
    (h : FractionSpelled fraction cs) (hrest : ∀ c ∈ rest.head?, c.isDigit = false ∧ c ≠ '.') :
    ∀ c ∈ (cs ++ rest).head?, c.isDigit = false := by
  intro c hc
  cases h with
  | none => exact (hrest c hc).1
  | some => cases hc; rfl

theorem scanMinus_append {negative : Bool} {whole : List Char} (h : Digits whole)
    (rest : List Char) :
    scanMinus ((if negative then ['-'] else []) ++ (whole ++ rest)) = (negative, whole ++ rest) := by
  cases negative with
  | true => rfl
  | false =>
    obtain ⟨c, cs, rfl, hc⟩ := h.exists_cons
    simp only [Bool.false_eq_true, if_false, List.nil_append, List.cons_append]
    unfold scanMinus
    split
    · rename_i heq
      cases heq
      cases hc
    · rfl

/-- A numeral is read back however it is written, if it is over. -/
theorem Spelled.scan?_append {n : Numeral} {cs rest : List Char} (h : n.Spelled cs)
    (hrest : Stops rest) : scan? (cs ++ rest) = some (n, rest) := by
  obtain ⟨hwhole, hzero, hfraction, hexponent⟩ := h
  have after_fraction := head?_exponent hexponent hrest
  have after_whole := head?_fraction hfraction after_fraction
  simp only [List.append_assoc]
  rw [scan?, scanMinus_append hwhole, scanWhole?_append hwhole hzero after_whole]
  simp only [Option.bind_eq_bind, Option.bind_some, scanFraction?_append hfraction after_fraction,
    scanExponent?_append hexponent hrest]

theorem Spelled.exists_cons {n : Numeral} {cs : List Char} (h : n.Spelled cs) :
    ∃ c rest, cs = c :: rest ∧ (c = '-' ∨ c.isDigit = true) := by
  obtain @⟨negative, whole, fraction, exponent, cs, cs', hwhole, -, -, -⟩ := h
  obtain ⟨c, rest, rfl, hc⟩ := hwhole.exists_cons
  cases negative with
  | true => exact ⟨'-', _, rfl, .inl rfl⟩
  | false => exact ⟨c, _, rfl, .inr hc⟩

end Numeral

/-! ## Strings -/

/-- The characters that have a short escape, each after the letter that stands for it. -/
def shortEscapes : List (Char × Char) :=
  [('"', '"'), ('\\', '\\'), ('/', '/'), ('b', '\x08'), ('f', '\x0c'), ('n', '\n'), ('r', '\r'),
    ('t', '\t')]

/-- The character is a hexadecimal digit, in either case, of value `n`. -/
def IsHexDigit (c : Char) (n : Nat) : Prop :=
  (c, n) ∈ "0123456789abcdef".toList.zipIdx ∨ (c, n) ∈ "0123456789ABCDEF".toList.zipIdx

instance (c : Char) (n : Nat) : Decidable (IsHexDigit c n) :=
  inferInstanceAs (Decidable (_ ∨ _))

namespace Piece

/-- The place of a string is written so. -/
inductive Spelled : Piece → List Char → Prop
  | plain {c : Char} (hquote : c ≠ '"') (hslash : c ≠ '\\') (hcontrol : 0x20 ≤ c.toNat) :
    Spelled (char c) [c]
  | short {e c : Char} (h : (e, c) ∈ shortEscapes) : Spelled (char c) ['\\', e]
  | unit {c₁ c₂ c₃ c₄ : Char} {n₁ n₂ n₃ n₄ : Nat} (h₁ : IsHexDigit c₁ n₁) (h₂ : IsHexDigit c₂ n₂)
    (h₃ : IsHexDigit c₃ n₃) (h₄ : IsHexDigit c₄ n₄) :
    Spelled (unit (16 * (16 * (16 * n₁ + n₂) + n₃) + n₄)) ['\\', 'u', c₁, c₂, c₃, c₄]

/-- The places are written so, one after the other. -/
inductive AllSpelled : List Piece → List Char → Prop
  | nil : AllSpelled [] []
  | cons {p : Piece} {ps : List Piece} {cs rest : List Char} (h : p.Spelled cs)
    (hrest : AllSpelled ps rest) : AllSpelled (p :: ps) (cs ++ rest)

/-- The places stand for these characters. Two units that are the halves of a surrogate pair stand
for one character. -/
inductive StandFor : List Piece → List Char → Prop
  | nil : StandFor [] []
  | char {c : Char} {ps : List Piece} {cs : List Char} (h : StandFor ps cs) :
    StandFor (char c :: ps) (c :: cs)
  | unit {c : Char} {ps : List Piece} {cs : List Char} (hc : c.toNat < 0x10000)
    (h : StandFor ps cs) : StandFor (unit c.toNat :: ps) (c :: cs)
  | pair {high low : Nat} {c : Char} {ps : List Piece} {cs : List Char}
    (hhigh : 0xD800 ≤ high ∧ high < 0xDC00) (hlow : 0xDC00 ≤ low ∧ low < 0xE000)
    (hc : c.toNat = 0x10000 + (high - 0xD800) * 0x400 + (low - 0xDC00)) (h : StandFor ps cs) :
    StandFor (unit high :: unit low :: ps) (c :: cs)

end Piece

theorem unescape?_of_mem {e c : Char} (h : (e, c) ∈ shortEscapes) :
    e ≠ 'u' ∧ unescape? e = some c := by
  have all : ∀ p ∈ shortEscapes, p.1 ≠ 'u' ∧ unescape? p.1 = some p.2 := by decide
  exact all _ h

theorem hexValue?_of_isHexDigit {c : Char} {n : Nat} (h : IsHexDigit c n) :
    Text.hexValue? c = some n ∧ n < 16 := by
  have lower : ∀ p ∈ "0123456789abcdef".toList.zipIdx,
      Text.hexValue? p.1 = some p.2 ∧ p.2 < 16 := by decide
  have upper : ∀ p ∈ "0123456789ABCDEF".toList.zipIdx,
      Text.hexValue? p.1 = some p.2 ∧ p.2 < 16 := by decide
  rcases h with h | h
  · exact lower _ h
  · exact upper _ h

namespace Piece

/-- A place of a string is read back however it is written. -/
theorem Spelled.scanPieces?_append {p : Piece} {cs : List Char} (h : p.Spelled cs)
    (rest : List Char) :
    scanPieces? (cs ++ rest) = (scanPieces? rest).map fun (ps, rest) => (p :: ps, rest) := by
  cases h with
  | @plain c hquote hslash hcontrol =>
    rw [List.singleton_append, scanPieces?, if_neg (Nat.not_lt.2 hcontrol)]
    · cases scanPieces? rest <;> rfl
    all_goals simp_all
  | @short e c h =>
    obtain ⟨hu, he⟩ := unescape?_of_mem h
    simp only [List.cons_append, List.nil_append]
    rw [scanPieces?, he]
    · cases scanPieces? rest <;> rfl
    · rintro a b c d tail heq -
      exact hu heq
  | @unit c₁ c₂ c₃ c₄ n₁ n₂ n₃ n₄ h₁ h₂ h₃ h₄ =>
    have number : Text.hexNumber? [c₁, c₂, c₃, c₄] =
        some (16 * (16 * (16 * n₁ + n₂) + n₃) + n₄) := by
      simp [Text.hexNumber?, (hexValue?_of_isHexDigit h₁).1, (hexValue?_of_isHexDigit h₂).1,
        (hexValue?_of_isHexDigit h₃).1, (hexValue?_of_isHexDigit h₄).1]
    simp only [List.cons_append, List.nil_append]
    rw [scanPieces?, number]
    cases scanPieces? rest <;> rfl

theorem AllSpelled.scanPieces?_append {ps : List Piece} {cs : List Char} (h : AllSpelled ps cs)
    (rest : List Char) : scanPieces? (cs ++ '"' :: rest) = some (ps, rest) := by
  induction h with
  | nil => rw [List.nil_append, scanPieces?]
  | cons h _ ih =>
    rw [List.append_assoc, h.scanPieces?_append, ih]
    rfl

/-- Units are written with four digits. -/
theorem Spelled.lt_of_unit {n : Nat} {cs : List Char} (h : (Piece.unit n).Spelled cs) :
    n < 0x10000 := by
  cases h with
  | unit h₁ h₂ h₃ h₄ =>
    have := (hexValue?_of_isHexDigit h₁).2
    have := (hexValue?_of_isHexDigit h₂).2
    have := (hexValue?_of_isHexDigit h₃).2
    have := (hexValue?_of_isHexDigit h₄).2
    omega

theorem AllSpelled.lt_of_unit_mem {ps : List Piece} {cs : List Char} (h : AllSpelled ps cs) {n : Nat}
    (hn : Piece.unit n ∈ ps) : n < 0x10000 := by
  induction h with
  | nil => cases hn
  | cons h _ ih =>
    rcases List.mem_cons.1 hn with rfl | hn
    · exact h.lt_of_unit
    · exact ih hn

theorem not_surrogate (c : Char) : isHigh c.toNat = false ∧ isLow c.toNat = false := by
  have hc : c.toNat < 0xD800 ∨ 0xDFFF < c.toNat ∧ c.toNat < 0x110000 := c.valid
  simp only [isHigh, isLow, Bool.and_eq_false_iff, decide_eq_false_iff_not]
  omega

theorem StandFor.join?_eq {ps : List Piece} {cs : List Char} (h : StandFor ps cs) :
    join? ps = some cs := by
  induction h with
  | nil => rfl
  | char _ ih => rw [join?, ih]; rfl
  | @unit c ps cs hc h ih =>
    rw [join?.eq_def]
    simp only [not_surrogate c, Bool.false_eq_true, if_false, Char.ofNat_toNat, ih, Option.map_some]
  | @pair high low c ps cs hhigh hlow hc h ih =>
    have high_half : isHigh high = true := by simp [isHigh, hhigh]
    have low_half : isLow low = true := by simp [isLow, hlow]
    rw [join?.eq_def]
    simp only [high_half, low_half, if_true, ih, ← hc, Char.ofNat_toNat, Option.map_some]

theorem toNat_charOfNat {n : Nat} (h : n.isValidChar) : (Char.ofNat n).toNat = n := by
  rw [Char.ofNat, dif_pos h]
  rfl

/-- Places that are read as characters stand for them. -/
theorem standFor_of_join? {ps : List Piece} {cs : List Char}
    (hunits : ∀ n, unit n ∈ ps → n < 0x10000) (h : join? ps = some cs) : StandFor ps cs := by
  fun_induction join? ps generalizing cs with
  | case1 =>
    cases h
    exact .nil
  | case2 c rest ih =>
    obtain ⟨cs, hrest, rfl⟩ := Option.map_eq_some_iff.1 h
    exact .char (ih (fun n hn => hunits n (List.mem_cons_of_mem _ hn)) hrest)
  | case3 n hhigh m rest hlow ih =>
    obtain ⟨cs, hrest, rfl⟩ := Option.map_eq_some_iff.1 h
    simp only [isHigh, isLow, Bool.and_eq_true, decide_eq_true_eq] at hhigh hlow
    have later := ih (fun k hk => hunits k (by simp [hk])) hrest
    exact .pair hhigh hlow (toNat_charOfNat (.inr (by omega))) later
  | case4 => cases h
  | case5 => cases h
  | case6 => cases h
  | case7 n rest hhigh hlow ih =>
    obtain ⟨cs, hrest, rfl⟩ := Option.map_eq_some_iff.1 h
    have bound := hunits n List.mem_cons_self
    have later := ih (fun k hk => hunits k (List.mem_cons_of_mem _ hk)) hrest
    have number : (Char.ofNat n).toNat = n := by
      simp only [isHigh, isLow, Bool.and_eq_true, decide_eq_true_eq] at hhigh hlow
      refine toNat_charOfNat ?_
      unfold Nat.isValidChar
      omega
    have unit_stands := StandFor.unit (c := Char.ofNat n) (by omega) later
    rwa [number] at unit_stands

end Piece

/-! ## Tokens -/

namespace Token

open Numeral (Stops)

/-- A token that is always written alike. -/
def Fixed : Token → Prop
  | number _ | string _ | brokenString | invalid => False
  | _ => True

/-- The token is written so. -/
inductive Spelled : Token → List Char → Prop
  | fixed {t : Token} (h : t.Fixed) : Spelled t t.text
  | number {n : Numeral} {cs : List Char} (h : n.Spelled cs) : Spelled (number n) cs
  | string {s : String} {ps : List Piece} {cs : List Char} (h : Piece.AllSpelled ps cs)
    (hs : Piece.StandFor ps s.toList) : Spelled (string s) ('"' :: (cs ++ ['"']))
  | brokenString {ps : List Piece} {cs : List Char} (h : Piece.AllSpelled ps cs)
    (hs : ∀ text, ¬Piece.StandFor ps text) : Spelled brokenString ('"' :: (cs ++ ['"']))

def isNumber : Token → Bool
  | number _ => true
  | _ => false

theorem scanOne?_of_numeral {c : Char} (h : c = '-' ∨ c.isDigit = true) (cs : List Char) :
    scanOne? (c :: cs) = (Numeral.scan? (c :: cs)).map fun (n, rest) => (number n, rest) := by
  unfold scanOne?
  split
  case h_11 => rfl
  all_goals
    rename_i heq
    cases heq
    exact absurd h (by decide)

/-- A token begins with a character that is no gap and, unless it is a number, goes on no numeral. -/
theorem Spelled.exists_cons {t : Token} {cs : List Char} (h : t.Spelled cs) :
    ∃ c rest, cs = c :: rest ∧ isGap c = false ∧
      (t.isNumber = false → Numeral.goesOn c = false) := by
  cases h with
  | @fixed t h =>
    cases t with
    | bool b => cases b <;> exact ⟨_, _, rfl, rfl, fun _ => rfl⟩
    | number n => cases h
    | string s => cases h
    | brokenString => cases h
    | invalid => cases h
    | _ => exact ⟨_, _, rfl, rfl, fun _ => rfl⟩
  | number h =>
    obtain ⟨c, rest, rfl, hc⟩ := h.exists_cons
    refine ⟨c, rest, rfl, ?_, fun hn => by cases hn⟩
    cases hgap : isGap c with
    | false => rfl
    | true =>
      simp only [isGap, Bool.or_eq_true, decide_eq_true_eq] at hgap
      rcases hc with rfl | hc
      · simp at hgap
      · rcases hgap with ((rfl | rfl) | rfl) | rfl <;> cases hc
  | string | brokenString => exact ⟨_, _, rfl, rfl, fun _ => rfl⟩

/-- A token is read back however it is written; a number has to be over. -/
theorem Spelled.scanOne?_append {t : Token} {cs rest : List Char} (h : t.Spelled cs)
    (hrest : t.isNumber = true → Stops rest) : scanOne? (cs ++ rest) = some (t, rest) := by
  cases h with
  | @fixed t h =>
    cases t with
    | bool b => cases b <;> rfl
    | number n => cases h
    | string s => cases h
    | brokenString => cases h
    | invalid => cases h
    | _ => rfl
  | @number n cs h =>
    have scanned := h.scan?_append (hrest rfl)
    obtain ⟨c, cs, rfl, hc⟩ := h.exists_cons
    rw [List.cons_append] at scanned ⊢
    rw [scanOne?_of_numeral hc, scanned]
    rfl
  | @string s ps cs h hs =>
    rw [List.cons_append, List.append_assoc, List.singleton_append]
    simp only [scanOne?, h.scanPieces?_append, hs.join?_eq, Option.map_some, Option.getD_some,
      String.ofList_toList]
  | @brokenString ps cs h hs =>
    have none_stands : Piece.join? ps = none := by
      cases hjoin : Piece.join? ps with
      | none => rfl
      | some text =>
        exact absurd (Piece.standFor_of_join? (fun n => h.lt_of_unit_mem) hjoin) (hs text)
    rw [List.cons_append, List.append_assoc, List.singleton_append]
    simp only [scanOne?, h.scanPieces?_append, none_stands, Option.map_some, Option.map_none,
      Option.getD_none]

theorem Spelled.scan_append {t : Token} {cs rest : List Char} (h : t.Spelled cs)
    (hrest : t.isNumber = true → Stops rest) : scan (cs ++ rest) = t :: scan rest := by
  have one := h.scanOne?_append hrest
  obtain ⟨c, cs, rfl, hgap, -⟩ := h.exists_cons
  exact scan_of_scanOne? hgap one

/-! ### Lists of tokens -/

/-- Nothing but blanks that may stand between tokens. -/
def Gap (cs : List Char) : Prop :=
  ∀ c ∈ cs, c = ' ' ∨ c = '\n' ∨ c = '\t' ∨ c = '\r'

/-- The characters are the tokens, one after the other, with gaps between and around them. -/
inductive Layout : List Token → List Char → Prop
  | nil {gap : List Char} (hgap : Gap gap) : Layout [] gap
  | cons {t : Token} {ts : List Token} {gap cs rest : List Char} (hgap : Gap gap)
    (h : t.Spelled cs) (hrest : Layout ts rest) : Layout (t :: ts) (gap ++ (cs ++ rest))

/-- No two numbers stand side by side. -/
def Separate (ts : List Token) : Prop :=
  ts.IsChain fun t u => t.isNumber = false ∨ u.isNumber = false

theorem separate_nil : Separate [] :=
  List.IsChain.nil

theorem separate_singleton (t : Token) : Separate [t] :=
  List.isChain_singleton t

/-- Any two lists may be joined by a token that is no number. -/
theorem Separate.append_cons {ts us : List Token} {t : Token} (hts : Separate ts)
    (ht : t.isNumber = false) (hus : Separate us) : Separate (ts ++ t :: us) := by
  have tail : Separate (t :: us) := List.isChain_cons.2 ⟨fun _ _ => .inl ht, hus⟩
  refine List.isChain_append.2 ⟨hts, tail, fun _ _ u hu => ?_⟩
  cases hu
  exact .inr ht

theorem Separate.cons {ts : List Token} {t : Token} (hts : Separate ts)
    (ht : t.isNumber = false) : Separate (t :: ts) :=
  Separate.append_cons separate_nil ht hts

theorem Gap.isGap {gap : List Char} (h : Gap gap) {c : Char} (hc : c ∈ gap) :
    isGap c = true := by
  rcases h c hc with rfl | rfl | rfl | rfl <;> rfl

theorem Gap.scan_append {gap : List Char} (h : Gap gap) (cs : List Char) :
    scan (gap ++ cs) = scan cs := by
  induction gap with
  | nil => rfl
  | cons c gap ih =>
    rw [List.cons_append, scan_cons_of_gap (h.isGap List.mem_cons_self),
      ih fun c hc => h c (List.mem_cons_of_mem _ hc)]

theorem Gap.stops_append {gap cs : List Char} (h : Gap gap) (hcs : Stops cs) :
    Stops (gap ++ cs) := by
  cases gap with
  | nil => exact hcs
  | cons c gap =>
    rintro c ⟨⟩
    rcases h c List.mem_cons_self with rfl | rfl | rfl | rfl <;> rfl

/-- A numeral is over in front of tokens that do not begin with a number. -/
theorem Layout.stops {ts : List Token} {cs : List Char} (h : Layout ts cs)
    (ht : ∀ t ∈ ts.head?, t.isNumber = false) : Stops cs := by
  cases h with
  | nil hgap =>
    rw [← List.append_nil cs]
    exact hgap.stops_append (by rintro c ⟨⟩)
  | cons hgap h _ =>
    obtain ⟨c, rest, rfl, -, hc⟩ := h.exists_cons
    refine hgap.stops_append ?_
    rintro c ⟨⟩
    exact hc (ht _ rfl)

/-- Tokens as they are usually written, with the same gap in front of each. -/
theorem layout_flatMap {gap : List Char} (hgap : Gap gap) {ts : List Token}
    (h : ∀ t ∈ ts, t.Spelled t.text) : Layout ts (ts.flatMap fun t => gap ++ t.text) := by
  induction ts with
  | nil => exact .nil (by rintro c ⟨⟩)
  | cons t ts ih =>
    obtain ⟨here, later⟩ := List.forall_mem_cons.1 h
    rw [List.flatMap_cons, List.append_assoc]
    exact .cons hgap here (ih later)

/-- Tokens are read back however they are laid out. -/
theorem Layout.scan_eq {ts : List Token} {cs : List Char} (h : Layout ts cs) (hts : Separate ts) :
    scan cs = ts := by
  induction h with
  | @nil gap hgap =>
    rw [← List.append_nil gap, hgap.scan_append, scan_nil]
  | @cons t ts gap cs rest hgap h hrest ih =>
    obtain ⟨apart, later⟩ := List.isChain_cons.1 hts
    have ends (ht : t.isNumber = true) : Stops rest :=
      hrest.stops fun u hu => (apart u hu).resolve_left (by simp [ht])
    rw [hgap.scan_append, h.scan_append ends, ih later]

end Token

end TextAdventure.Json
