import TextAdventure.Proofs.Json.Format

/-!
# Texts that are integers

What is read as a numeral is a numeral as it may be written, and the characters in front of it are
blanks (`Numeral.exists_spelled_of_scan?`, `Token.scan_eq_number_iff`). A numeral counts as an
integer when its characters are those of an integer, all but a zero with a sign, within the signed
64-bit range or above it up to the unsigned one (`Numeral.Spelled.integer?_eq_some_iff`).
-/

namespace TextAdventure.Json

/-! ## What is read as a numeral -/

namespace Numeral

theorem digits_of_scanDigits? {cs digits rest : List Char}
    (h : scanDigits? cs = some (digits, rest)) : Digits digits ∧ cs = digits ++ rest := by
  unfold scanDigits? at h
  split at h
  · cases h
  · rename_i hne
    cases h
    have digit : ∀ c ∈ cs.takeWhile Char.isDigit, c.isDigit = true :=
      List.all_eq_true.1 List.all_takeWhile
    exact ⟨⟨hne, digit⟩, List.takeWhile_append_dropWhile.symm⟩

theorem digits_of_scanWhole? {cs whole rest : List Char}
    (h : scanWhole? cs = some (whole, rest)) :
    Digits whole ∧ (whole.head? = some '0' → whole = ['0']) ∧ cs = whole ++ rest := by
  unfold scanWhole? at h
  split at h
  · cases h
  · rename_i hlong
    obtain ⟨digits, heq⟩ := digits_of_scanDigits? h
    refine ⟨digits, fun hzero => ?_, heq⟩
    obtain ⟨more, rfl⟩ : ∃ more, whole = '0' :: more := by
      cases whole with
      | nil => cases hzero
      | cons c more => cases hzero; exact ⟨more, rfl⟩
    cases more with
    | nil => rfl
    | cons d more => exact absurd h (hlong d more rest)

theorem fractionSpelled_of_scanFraction? {cs rest : List Char} {fraction : Option (List Char)}
    (h : scanFraction? cs = some (fraction, rest)) :
    ∃ cs', FractionSpelled fraction cs' ∧ cs = cs' ++ rest := by
  unfold scanFraction? at h
  split at h
  · obtain ⟨⟨digits, rest'⟩, hscan, heq⟩ := Option.map_eq_some_iff.1 h
    cases heq
    obtain ⟨digits, rfl⟩ := digits_of_scanDigits? hscan
    exact ⟨_, .some digits, rfl⟩
  · cases h
    exact ⟨[], .none, rfl⟩

theorem exists_signSpelled (cs : List Char) :
    ∃ sign, SignSpelled (scanSign cs).1 sign ∧ cs = sign ++ (scanSign cs).2 := by
  unfold scanSign
  split
  · exact ⟨_, .minus, rfl⟩
  · exact ⟨_, .plus, rfl⟩
  · exact ⟨_, .none, rfl⟩

theorem exponentSpelled_of_scanExponent? {cs rest : List Char}
    {exponent : Option (Bool × List Char)} (h : scanExponent? cs = some (exponent, rest)) :
    ∃ cs', ExponentSpelled exponent cs' ∧ cs = cs' ++ rest := by
  unfold scanExponent? at h
  split at h
  · cases h
    exact ⟨[], .none, rfl⟩
  · rename_i mark cs
    split at h
    · rename_i hmark
      obtain ⟨⟨digits, rest'⟩, hscan, heq⟩ := Option.map_eq_some_iff.1 h
      cases heq
      obtain ⟨digits, hrest⟩ := digits_of_scanDigits? hscan
      obtain ⟨sign, hsign, hcs⟩ := exists_signSpelled cs
      refine ⟨_, .some hmark hsign digits, ?_⟩
      rw [List.cons_append, List.append_assoc, ← hrest, ← hcs]
    · cases h
      exact ⟨[], .none, rfl⟩

theorem scanMinus_eq (cs : List Char) :
    cs = (if (scanMinus cs).1 then ['-'] else []) ++ (scanMinus cs).2 := by
  unfold scanMinus
  split <;> rfl

/-- What is read as a numeral is one of the ways to write it. -/
theorem exists_spelled_of_scan? {cs rest : List Char} {n : Numeral}
    (h : scan? cs = some (n, rest)) : ∃ cs', n.Spelled cs' ∧ cs = cs' ++ rest := by
  unfold scan? at h
  simp only [Option.bind_eq_bind, Option.bind_eq_some_iff] at h
  obtain ⟨⟨whole, cs₁⟩, h₁, ⟨fraction, cs₂⟩, h₂, ⟨exponent, cs₃⟩, h₃, heq⟩ := h
  cases heq
  obtain ⟨hwhole, hzero, rest₁⟩ := digits_of_scanWhole? h₁
  obtain ⟨cs', hfraction, rest₂⟩ := fractionSpelled_of_scanFraction? h₂
  obtain ⟨cs'', hexponent, rest₃⟩ := exponentSpelled_of_scanExponent? h₃
  refine ⟨_, .parts hwhole hzero hfraction hexponent, ?_⟩
  calc cs = (if (scanMinus cs).1 then ['-'] else []) ++ (scanMinus cs).2 := scanMinus_eq cs
    _ = (if (scanMinus cs).1 then ['-'] else []) ++ (whole ++ (cs' ++ (cs'' ++ cs₃))) := by
      rw [rest₁, ← rest₃, ← rest₂]
    _ = _ := by simp only [List.append_assoc]

/-- Different numerals are written differently. -/
theorem Spelled.unique {n m : Numeral} {cs : List Char} (hn : n.Spelled cs) (hm : m.Spelled cs) :
    n = m := by
  have ends : Stops [] := by rintro c ⟨⟩
  have read := (hn.scan?_append ends).symm.trans (hm.scan?_append ends)
  simpa using read

/-! ## Integers -/

/-- The integer is written so: in digits, of which several do not begin with a zero, and perhaps
with a minus sign. -/
inductive IntegerSpelled : Int → List Char → Prop
  | plain {digits : List Char} (h : Digits digits)
    (hzero : digits.head? = some '0' → digits = ['0']) :
    IntegerSpelled (Nat.ofDigitChars 10 digits 0) digits
  | minus {digits : List Char} (h : Digits digits)
    (hzero : digits.head? = some '0' → digits = ['0']) :
    IntegerSpelled (-Nat.ofDigitChars 10 digits 0) ('-' :: digits)

/-- Digits that do not begin with a zero make a number above zero. -/
theorem value_pos {digits : List Char} (h : Digits digits) (hzero : digits.head? ≠ some '0') :
    0 < value digits := by
  obtain ⟨c, rest, rfl, hc⟩ := h.exists_cons
  have hne : c ≠ '0' := by rintro rfl; exact hzero rfl
  have first : '0'.toNat < c.toNat := by
    have lower : '0'.toNat ≤ c.toNat := by
      simp only [Char.isDigit, Bool.and_eq_true, decide_eq_true_eq] at hc
      exact hc.1
    exact Nat.lt_of_le_of_ne lower fun heq => hne (Char.toNat_inj.1 heq.symm)
  rw [value, Nat.ofDigitChars_cons, Nat.ofDigitChars_eq_ofDigitChars_zero]
  have scaled := Nat.mul_pos (Nat.pow_pos (n := rest.length) (Nat.zero_lt_succ 9))
    (Nat.sub_pos_of_lt first)
  simp only [Nat.mul_zero, Nat.zero_add]
  exact Nat.lt_of_lt_of_le scaled (Nat.le_add_right _ _)

/-- A numeral without fraction and exponent is written as its digits, perhaps with a minus sign. -/
theorem spelled_whole {digits : List Char} (h : Digits digits)
    (hzero : digits.head? = some '0' → digits = ['0']) (negative : Bool) :
    Spelled ⟨negative, digits, none, none⟩ ((if negative then ['-'] else []) ++ digits) := by
  have spelled : Spelled ⟨negative, digits, none, none⟩ _ := .parts h hzero .none .none
  rwa [List.append_nil, List.append_nil] at spelled

theorem integer?_plain {digits : List Char} {v : Int} :
    integer? ⟨false, digits, none, none⟩ = some v ↔
      v = value digits ∧ v < 0x1_0000_0000_0000_0000 := by
  simp only [integer?, Option.isSome_none, Bool.or_self, Bool.false_eq_true, if_false]
  split
  · rw [Option.some.injEq]
    omega
  · refine iff_of_false (by simp) ?_
    omega

theorem integer?_minus {digits : List Char} {v : Int} :
    integer? ⟨true, digits, none, none⟩ = some v ↔
      v = -value digits ∧ 0 < value digits ∧ -0x8000_0000_0000_0000 ≤ v := by
  simp only [integer?, Option.isSome_none, Bool.or_self, Bool.false_eq_true, if_false, if_true,
    Bool.and_eq_true, decide_eq_true_eq]
  split
  · rw [Option.some.injEq]
    omega
  · refine iff_of_false (by simp) ?_
    omega

/-- Only numerals without fraction and exponent count as integers. -/
theorem parts_of_integer? {n : Numeral} {v : Int} (h : n.integer? = some v) :
    n.fraction = none ∧ n.exponent = none := by
  unfold integer? at h
  split at h
  · cases h
  · rename_i hparts
    simpa using hparts

/-- Which numerals count as integers, told by their characters. -/
theorem Spelled.integer?_eq_some_iff {n : Numeral} {cs : List Char} (h : n.Spelled cs) {v : Int} :
    n.integer? = some v ↔ IntegerSpelled v cs ∧ cs ≠ ['-', '0'] ∧
      -0x8000_0000_0000_0000 ≤ v ∧ v < 0x1_0000_0000_0000_0000 := by
  constructor
  · intro hv
    obtain ⟨hfraction, hexponent⟩ := parts_of_integer? hv
    obtain @⟨negative, digits, _, _, cs, cs', hdigits, hzero, ⟨⟩ | _, ⟨⟩ | _⟩ := h
    · rw [List.append_nil, List.append_nil]
      cases negative with
      | true =>
        obtain ⟨rfl, hpos, hlower⟩ := integer?_minus.1 hv
        refine ⟨.minus hdigits hzero, ?_, hlower, by omega⟩
        rintro heq
        cases heq
        exact absurd hpos (by decide)
      | false =>
        obtain ⟨rfl, hupper⟩ := integer?_plain.1 hv
        refine ⟨.plain hdigits hzero, ?_, by omega, hupper⟩
        rintro heq
        obtain ⟨c, rest, hcs, hc⟩ := hdigits.exists_cons
        rw [hcs] at heq
        cases heq
        cases hc
    · cases hexponent
    · cases hfraction
    · cases hfraction
  · rintro ⟨hv, hne, hlower, hupper⟩
    cases hv with
    | plain hdigits hzero =>
      rw [h.unique (spelled_whole hdigits hzero false), integer?_plain]
      exact ⟨rfl, hupper⟩
    | @minus digits hdigits hzero =>
      have hpos : 0 < value digits :=
        value_pos hdigits fun hhead => hne (by rw [hzero hhead])
      rw [h.unique (spelled_whole hdigits hzero true), integer?_minus]
      exact ⟨rfl, hpos, hlower⟩

end Numeral

/-! ## Texts of one token -/

namespace Token

/-- Every text is blanks and a rest that does not begin with one. -/
theorem exists_gap_append (cs : List Char) :
    ∃ gap rest, Gap gap ∧ cs = gap ++ rest ∧ ∀ c ∈ rest.head?, isGap c = false := by
  refine ⟨cs.takeWhile isGap, cs.dropWhile isGap, fun c hc => ?_,
    List.takeWhile_append_dropWhile.symm, fun c hc => ?_⟩
  · have blank := List.all_eq_true.1 (List.all_takeWhile (p := isGap)) c hc
    simpa [isGap, or_assoc] using blank
  · have stop := List.head?_dropWhile_not isGap cs
    rwa [Option.mem_def.1 hc] at stop

/-- A text without tokens is blank. -/
theorem gap_of_scan_eq_nil {cs : List Char} (h : scan cs = []) : Gap cs := by
  obtain ⟨gap, rest, hgap, rfl, hhead⟩ := exists_gap_append cs
  rw [hgap.scan_append] at h
  cases rest with
  | nil => rwa [List.append_nil]
  | cons c rest =>
    cases hone : scanOne? (c :: rest) with
    | none => rw [scan_of_scanOne?_eq_none (hhead c rfl) hone] at h; cases h
    | some p => rw [scan_of_scanOne? (hhead c rfl) hone] at h; cases h

/-- A token of a text has blanks in front of it and the other tokens after it. -/
theorem exists_of_scan_eq_cons {cs : List Char} {t : Token} {ts : List Token}
    (h : scan cs = t :: ts) (ht : t ≠ invalid) :
    ∃ gap cs' rest, Gap gap ∧ cs = gap ++ cs' ∧ scanOne? cs' = some (t, rest) ∧ scan rest = ts := by
  obtain ⟨gap, cs', hgap, rfl, hhead⟩ := exists_gap_append cs
  rw [hgap.scan_append] at h
  cases cs' with
  | nil => rw [scan_nil] at h; cases h
  | cons c cs' =>
    cases hone : scanOne? (c :: cs') with
    | none =>
      rw [scan_of_scanOne?_eq_none (hhead c rfl) hone] at h
      cases h
      exact absurd rfl ht
    | some p =>
      obtain ⟨t', rest⟩ := p
      rw [scan_of_scanOne? (hhead c rfl) hone] at h
      cases h
      exact ⟨gap, c :: cs', rest, hgap, rfl, hone, rfl⟩

theorem scan?_of_scanOne? {cs rest : List Char} {n : Numeral}
    (h : scanOne? cs = some (number n, rest)) : Numeral.scan? cs = some (n, rest) := by
  unfold scanOne? at h
  split at h
  case h_10 =>
    obtain ⟨⟨pieces, rest'⟩, -, heq⟩ := Option.map_eq_some_iff.1 h
    simp only [Prod.mk.injEq] at heq
    cases hjoin : Piece.join? pieces <;> simp [hjoin] at heq
  case h_11 =>
    obtain ⟨p, hp, heq⟩ := Option.map_eq_some_iff.1 h
    cases heq
    exact hp
  all_goals cases h

/-- The text of a single number is that number, written in one of the ways, with blanks around it. -/
theorem scan_eq_number_iff {cs : List Char} {n : Numeral} :
    scan cs = [number n] ↔
      ∃ gap cs' gap', Gap gap ∧ n.Spelled cs' ∧ Gap gap' ∧ cs = gap ++ (cs' ++ gap') := by
  constructor
  · intro h
    obtain ⟨gap, cs', rest, hgap, rfl, hone, hrest⟩ := exists_of_scan_eq_cons h (by simp)
    obtain ⟨cs'', hspelled, rfl⟩ := Numeral.exists_spelled_of_scan? (scan?_of_scanOne? hone)
    exact ⟨gap, cs'', rest, hgap, hspelled, gap_of_scan_eq_nil hrest, rfl⟩
  · rintro ⟨gap, cs', gap', hgap, hspelled, hgap', rfl⟩
    have layout : Layout [number n] (gap ++ (cs' ++ gap')) :=
      .cons hgap (.number hspelled) (.nil hgap')
    exact layout.scan_eq (separate_singleton _)

end Token

/-- The text is the integer, with nothing but blanks around it. A zero with a sign is none. -/
def IsInteger (text : String) (v : Int) : Prop :=
  ∃ gap cs gap', Token.Gap gap ∧ Numeral.IntegerSpelled v cs ∧ cs ≠ ['-', '0'] ∧ Token.Gap gap' ∧
    text.toList = gap ++ (cs ++ gap')

/-- The whole part of a numeral, with its sign. -/
def Numeral.signed (n : Numeral) : Int :=
  if n.negative then -value n.whole else value n.whole

/-- What is written for an integer is written for a numeral, which tells the integer. -/
theorem Numeral.IntegerSpelled.exists_spelled {v : Int} {cs : List Char}
    (h : Numeral.IntegerSpelled v cs) :
    ∃ n : Numeral, n.Spelled cs ∧ n.signed = v := by
  cases h with
  | plain h hzero => exact ⟨_, Numeral.spelled_whole h hzero false, rfl⟩
  | minus h hzero => exact ⟨_, Numeral.spelled_whole h hzero true, rfl⟩

/-- No text is two integers. -/
theorem IsInteger.unique {text : String} {v w : Int} (hv : IsInteger text v)
    (hw : IsInteger text w) : v = w := by
  have told {v : Int} (h : IsInteger text v) :
      ∃ n, Token.scan text.toList = [.number n] ∧ n.signed = v := by
    obtain ⟨gap, cs, gap', hgap, hspelled, -, hgap', htext⟩ := h
    obtain ⟨n, hn, heq⟩ := hspelled.exists_spelled
    exact ⟨n, Token.scan_eq_number_iff.2 ⟨gap, cs, gap', hgap, hn, hgap', htext⟩, heq⟩
  obtain ⟨n, hn, rfl⟩ := told hv
  obtain ⟨m, hm, rfl⟩ := told hw
  rw [hn] at hm
  cases hm
  rfl

theorem exists_scan_eq_number_iff {text : String} {v : Int} :
    (∃ n, Token.scan text.toList = [.number n] ∧ n.integer? = some v) ↔
      IsInteger text v ∧ -0x8000_0000_0000_0000 ≤ v ∧ v < 0x1_0000_0000_0000_0000 := by
  constructor
  · rintro ⟨n, hscan, hv⟩
    obtain ⟨gap, cs, gap', hgap, hn, hgap', htext⟩ := Token.scan_eq_number_iff.1 hscan
    obtain ⟨hspelled, hne, hrange⟩ := hn.integer?_eq_some_iff.1 hv
    exact ⟨⟨gap, cs, gap', hgap, hspelled, hne, hgap', htext⟩, hrange⟩
  · rintro ⟨⟨gap, cs, gap', hgap, hspelled, hne, hgap', htext⟩, hrange⟩
    obtain ⟨n, hn, -⟩ := hspelled.exists_spelled
    exact ⟨n, Token.scan_eq_number_iff.2 ⟨gap, cs, gap', hgap, hn, hgap', htext⟩,
      hn.integer?_eq_some_iff.2 ⟨hspelled, hne, hrange⟩⟩

/-! ## Reading integers -/

namespace Numeral

theorem number?_eq_integer_iff {n : Numeral} {v : Int} :
    n.number? = some (.integer v) ↔ n.integer? = some v := by
  unfold number?
  cases n.integer? with
  | some w => simp
  | none => simp

end Numeral

/-- An integer is read from one token, and it is the number of this token. -/
theorem Format.readInteger_eq_ok_iff {α : Type} {make : Int → Option α} {ts rest : List Token}
    {a : α} : readInteger make ts = .ok (a, rest) ↔
      ∃ n v, ts = .number n :: rest ∧ n.integer? = some v ∧ make v = some a := by
  simp only [← Numeral.number?_eq_integer_iff]
  constructor
  · intro h
    unfold readInteger at h
    split at h
    · rename_i n rest
      split at h
      · cases h
      · rename_i v hnumber
        split at h
        · cases h
        · rename_i hmake
          cases h
          exact ⟨n, v, rfl, hnumber, hmake⟩
      · cases h
    · cases h
  · rintro ⟨n, v, rfl, hnumber, hmake⟩
    simp only [readInteger, hnumber, hmake]

end TextAdventure.Json
