import Mathlib.Algebra.Ring.Int.Defs
import TextAdventure.Proofs.RoundTrip
import TextAdventure.Proofs.Json.Integer

/-!
# How room ids are read

The texts of room ids are those of the integers of the signed 64-bit range, a zero with a sign apart,
and the id that is read is the integer that is written (`RoomId.read_iff_integer`). Numbers out of
range, with a fraction or with an exponent are no ids, and none is taken for another number.
-/

namespace TextAdventure

open Json (IsInteger Numeral Token)

namespace RoomId

variable {text : String}

theorem ofInt?_of_large {v : Int} (h : 2 ^ 63 ≤ v) : ofInt? v = none :=
  dif_neg fun hrange => by omega

theorem ofInt?_eq_some_iff {v : Int} {id : RoomId} : ofInt? v = some id ↔ v = id.val :=
  ⟨fun h => (val_of_ofInt? h).symm, fun h => h ▸ ofInt?_val id⟩

/-- What becomes of a number that counts as an integer. -/
theorem parse_of_integer? {n : Numeral} {v : Int} (hscan : Token.scan text.toList = [.number n])
    (hv : n.integer? = some v) :
    format.parse text =
      match ofInt? v with
      | none => .error (.misfit (.tooLarge v))
      | some id => .ok id := by
  have hnumber : n.number? = some (.integer v) := by rw [Numeral.number?, hv]
  simp only [Json.Format.parse, hscan, format, Json.Format.readInteger, hnumber]
  cases ofInt? v <;> rfl

theorem parse_eq_ok_iff {id : RoomId} : format.parse text = .ok id ↔ IsInteger text id.val := by
  have lower := id.lower
  have upper := id.upper
  calc format.parse text = .ok id
      ↔ ∃ n v, Token.scan text.toList = [.number n] ∧ n.integer? = some v ∧ ofInt? v = some id := by
        rw [Json.Format.parse_eq_ok_iff]
        exact Json.Format.readInteger_eq_ok_iff
    _ ↔ ∃ n, Token.scan text.toList = [.number n] ∧ n.integer? = some id.val := by
        simp only [ofInt?_eq_some_iff]
        exact ⟨fun ⟨n, _, hscan, hint, rfl⟩ => ⟨n, hscan, hint⟩,
          fun ⟨n, hscan, hint⟩ => ⟨n, _, hscan, hint, rfl⟩⟩
    _ ↔ IsInteger text id.val ∧ _ := Json.exists_scan_eq_number_iff
    _ ↔ IsInteger text id.val := and_iff_left ⟨lower, by omega⟩

theorem exists_parse_iff :
    (∃ id, format.parse text = .ok id) ↔ ∃ v, IsInteger text v ∧ -2 ^ 63 ≤ v ∧ v ≤ 2 ^ 63 - 1 := by
  constructor
  · rintro ⟨id, h⟩
    have lower := id.lower
    have upper := id.upper
    exact ⟨id.val, parse_eq_ok_iff.1 h, by omega, by omega⟩
  · rintro ⟨v, h, lower, upper⟩
    exact ⟨⟨v, by omega, by omega⟩, parse_eq_ok_iff.2 h⟩

/-- A text is read as an id when it is an integer of the signed 64-bit range, and the id is then this
integer. No other text is read as an id: not a number out of range, be it ever so long, nor one with
a fraction or an exponent. An integer above the range and within 64 bits is told as it is. What is
written for an id is read as that id. -/
theorem read_iff_integer :
    (∀ text id, format.parse text = .ok id ↔ IsInteger text id.val) ∧
      (∀ text, (∃ id, format.parse text = .ok id) ↔
        ∃ v, IsInteger text v ∧ -2 ^ 63 ≤ v ∧ v ≤ 2 ^ 63 - 1) ∧
      (∀ text, (∀ v, IsInteger text v → v < -2 ^ 63 ∨ 2 ^ 63 - 1 < v) →
        ∃ fault, format.parse text = .error fault) ∧
      (∀ text v, IsInteger text v → 2 ^ 63 ≤ v → v < 2 ^ 64 →
        format.parse text = .error (.misfit (.tooLarge v))) ∧
      ∀ id, format.parse (format.print id) = .ok id := by
  refine ⟨fun _ _ => parse_eq_ok_iff, fun _ => exists_parse_iff, fun text hout => ?_,
    fun text v hv lower upper => ?_, fun id => lawful_format.parse_print trivial⟩
  · cases hparse : format.parse text with
    | error fault => exact ⟨fault, rfl⟩
    | ok id =>
      obtain ⟨v, hv, lower, upper⟩ := exists_parse_iff.1 ⟨id, hparse⟩
      rcases hout v hv with hlow | hhigh <;> omega
  · obtain ⟨n, hscan, hint⟩ := Json.exists_scan_eq_number_iff.2 ⟨hv, by omega, by omega⟩
    rw [parse_of_integer? hscan hint, ofInt?_of_large lower]

/-- The least id, between blanks, and the integers next to the range: above it, where 64 bits without
a sign still hold the number, and below it. -/
theorem integers_at_the_limits :
    let least := " -9223372036854775808\n"
    let above := "9223372036854775808"
    let below := "-9223372036854775809"
    format.parse least = .ok { val := -0x8000_0000_0000_0000 } ∧
      (IsInteger above (2 ^ 63) ∧ format.parse above = .error (.misfit (.tooLarge (2 ^ 63)))) ∧
      (∀ v, IsInteger below v → v < -2 ^ 63 ∨ 2 ^ 63 - 1 < v) ∧
      ∃ fault, format.parse below = .error fault := by
  intro least above below
  obtain ⟨read, -, refused, told, -⟩ := read_iff_integer
  have nothing : Token.Gap [] := fun _ hc => absurd hc List.not_mem_nil
  have limit : Numeral.Digits "9223372036854775808".toList :=
    ⟨by decide, List.all_eq_true.1 (by decide)⟩
  have beyond : Numeral.Digits "9223372036854775809".toList :=
    ⟨by decide, List.all_eq_true.1 (by decide)⟩
  have hleast : IsInteger least (-2 ^ 63) :=
    ⟨[' '], _, ['\n'], by simp [Token.Gap], .minus limit (by decide), by decide,
      by simp [Token.Gap], by decide⟩
  have habove : IsInteger above (2 ^ 63) :=
    ⟨[], _, [], nothing, .plain limit (by decide), by decide, nothing, by decide⟩
  have hbelow : IsInteger below (-2 ^ 63 - 1) :=
    ⟨[], _, [], nothing, .minus beyond (by decide), by decide, nothing, by decide⟩
  have out : ∀ v, IsInteger below v → v < -2 ^ 63 ∨ 2 ^ 63 - 1 < v := fun v hv =>
    .inl (by rw [hv.unique hbelow]; decide)
  exact ⟨(read least _).2 hleast, ⟨habove, told above _ habove (by decide) (by decide)⟩,
    out, refused below out⟩

end RoomId

end TextAdventure
