import TextAdventure.Proofs.Json.Spelling

/-!
# Reading back what is written

Strings and integers are read back as they were written, and so is a list of tokens in which every
number is followed by a token that no number begins or goes on with.
-/

namespace TextAdventure.Json

/-! ## Strings -/

namespace Piece

theorem isHexDigit_control :
    ∀ n < 0x20, IsHexDigit (n / 16).digitChar (n / 16) ∧ IsHexDigit (n % 16).digitChar (n % 16) := by
  decide

/-- One character is written as one place that stands for it. -/
theorem exists_spelled_escapeChar (c : Char) :
    ∃ piece : Piece, piece.Spelled (escapeChar c) ∧
      ∀ {ps : List Piece} {cs : List Char}, StandFor ps cs → StandFor (piece :: ps) (c :: cs) := by
  unfold escapeChar
  -- The seven short escapes come first.
  iterate 7
    split
    · subst c
      exact ⟨_, .short (by decide), .char⟩
  split
  · rename_i control
    obtain ⟨first, second⟩ := isHexDigit_control c.toNat control
    have zero : IsHexDigit '0' 0 := by decide
    refine ⟨_, .unit zero zero first second, fun h => ?_⟩
    have number : 16 * (16 * (16 * 0 + 0) + c.toNat / 16) + c.toNat % 16 = c.toNat := by omega
    rw [number]
    exact .unit (by omega) h
  · rename_i hquote hslash _ _ _ _ _ hcontrol
    exact ⟨_, .plain hquote hslash (Nat.not_lt.1 hcontrol), .char⟩

/-- The characters of a string are written as places that stand for them. -/
theorem exists_allSpelled_flatMap (cs : List Char) :
    ∃ ps, AllSpelled ps (cs.flatMap escapeChar) ∧ StandFor ps cs := by
  induction cs with
  | nil => exact ⟨[], .nil, .nil⟩
  | cons c cs ih =>
    obtain ⟨ps, spelled, stands⟩ := ih
    obtain ⟨piece, spelled_here, stands_here⟩ := exists_spelled_escapeChar c
    rw [List.flatMap_cons]
    exact ⟨piece :: ps, .cons spelled_here spelled, stands_here stands⟩

end Piece

example : scanPieces? ("\x01\"".toList.flatMap escapeChar ++ ['"', ',']) =
    some ([.unit 1, .char '"'], [',']) := by
  decide

/-! ## Integers -/

namespace Numeral

theorem digits_toDigits (n : Nat) : Digits (Nat.toDigits 10 n) where
  ne_nil := Nat.toDigits_ne_nil
  isDigit _ := Nat.isDigit_of_mem_toDigits (by decide) (by decide)

/-- Only zero is written with a zero in front. -/
theorem eq_zero_of_head?_toDigits {n : Nat} (h : (Nat.toDigits 10 n).head? = some '0') : n = 0 := by
  induction n using Nat.strongRecOn with
  | ind n ih =>
    by_cases hn : n < 10
    · rw [Nat.toDigits_of_lt_base hn] at h
      simpa using h
    · -- The first digit of `n` is that of `n / 10`.
      rw [Nat.toDigits_of_base_le (by decide) (by omega), List.head?_append,
        List.head?_eq_some_head Nat.toDigits_ne_nil, Option.some_or, ← List.head?_eq_some_head] at h
      have := ih (n / 10) (by omega) h
      omega

theorem spelled_text_ofInt (n : Int) : (ofInt n).Spelled (ofInt n).text := by
  refine .parts (digits_toDigits n.natAbs) (fun h => ?_) .none .none
  rw [eq_zero_of_head?_toDigits h]
  rfl

/-- An integer of the signed 64-bit range counts as itself. -/
theorem number?_ofInt {n : Int} (lower : -0x8000_0000_0000_0000 ≤ n)
    (upper : n < 0x8000_0000_0000_0000) : (ofInt n).number? = some (.integer n) := by
  have whole : value (Nat.toDigits 10 n.natAbs) = n.natAbs := Nat.ofDigitChars_ten_toDigits
  have taken : (ofInt n).integer? = some n := by
    simp only [integer?, ofInt, whole, Option.isSome_none, Bool.or_self, Bool.false_eq_true,
      if_false, decide_eq_true_eq, Bool.and_eq_true]
    by_cases hn : n < 0
    · rw [if_pos hn, if_pos (by omega)]
      exact congrArg some (by omega)
    · rw [if_neg hn, if_pos (by omega)]
      exact congrArg some (by omega)
  rw [number?, taken]

end Numeral

/-! ## Tokens -/

namespace Token

open Numeral (Stops)

/-- A token that needs no gap in front of it or behind it. -/
def Firm : Token → Prop
  | number _ | brokenString | invalid => False
  | _ => True

/-- A firm token is written in one of the ways to write it. -/
theorem Firm.spelled {t : Token} (h : t.Firm) : t.Spelled t.text := by
  cases t with
  | string s =>
    obtain ⟨ps, spelled, stands⟩ := Piece.exists_allSpelled_flatMap s.toList
    exact .string spelled stands
  | number n => cases h
  | brokenString => cases h
  | invalid => cases h
  | _ => exact .fixed trivial

theorem Firm.isNumber {t : Token} (h : t.Firm) : t.isNumber = false := by
  cases t with
  | number n => cases h
  | _ => rfl

/-- A firm token is read back whatever follows it. -/
theorem Firm.scan_append {t : Token} (h : t.Firm) (cs : List Char) :
    scan (t.text ++ cs) = t :: scan cs :=
  h.spelled.scan_append (by simp [h.isNumber])

/-- A numeral in front of a firm token is over. -/
theorem Firm.stops {t : Token} (h : t.Firm) (cs : List Char) : Stops (t.text ++ cs) := by
  obtain ⟨c, rest, written, -, ends⟩ := h.spelled.exists_cons
  rw [written]
  rintro c ⟨⟩
  exact ends h.isNumber

/-! ### Lists of tokens -/

/-- The tokens are read back where no numeral goes on after them. -/
def Legible (ts : List Token) : Prop :=
  ∀ rest, Stops rest → scan (ts.flatMap text ++ rest) = ts ++ scan rest

theorem legible_nil : Legible [] :=
  fun _ _ => rfl

theorem Firm.legible_cons {t : Token} (h : t.Firm) {ts : List Token} (hts : Legible ts) :
    Legible (t :: ts) := by
  intro rest hrest
  rw [List.flatMap_cons, List.append_assoc, h.scan_append, hts rest hrest, List.cons_append]

theorem Firm.legible {t : Token} (h : t.Firm) : Legible [t] :=
  h.legible_cons legible_nil

/-- Tokens may be followed by a firm one, whatever they end with. -/
theorem Legible.append_cons {ts us : List Token} {t : Token} (hts : Legible ts) (h : t.Firm)
    (hus : Legible us) : Legible (ts ++ t :: us) := by
  intro rest hrest
  have tail := h.legible_cons hus rest hrest
  rw [List.flatMap_cons, List.append_assoc] at tail
  rw [List.flatMap_append, List.flatMap_cons, List.append_assoc, List.append_assoc,
    hts _ (h.stops _), tail, List.append_assoc]

theorem legible_ofInt (n : Int) : Legible [number (.ofInt n)] := by
  intro rest hrest
  have written : (number (.ofInt n)).Spelled (number (.ofInt n)).text :=
    .number (Numeral.spelled_text_ofInt n)
  rw [List.flatMap_singleton, List.singleton_append]
  exact written.scan_append fun _ => hrest

/-- A whole text of legible tokens is read back. -/
theorem Legible.scan_render {ts : List Token} (h : Legible ts) : scan (render ts).toList = ts := by
  have := h [] (by rintro c ⟨⟩)
  rw [render, String.toList_ofList]
  simpa using this

end Token

end TextAdventure.Json
