import Mathlib.Data.List.Forall2
import TextAdventure.Json.Format
import TextAdventure.Proofs.Json.Text

/-!
# Laws of formats

A format is lawful for the values of which `C` holds when it reads back each of them, reads nothing
else, and writes tokens that survive being written as text. Lists, maps and formats of another type
are lawful when what they are made from is. The text of a map is made of the texts of its entries
(`Format.print_entries`).
-/

namespace TextAdventure.Json

theorem ok_bind {ε α β : Type} (a : α) (f : α → Except ε β) : (Except.ok a >>= f) = f a :=
  rfl

theorem bind_eq_ok_iff {ε α β : Type} {x : Except ε α} {f : α → Except ε β} {b : β} :
    (x >>= f) = .ok b ↔ ∃ a, x = .ok a ∧ f a = .ok b := by
  cases x with
  | error e => simp [bind, Except.bind]
  | ok a => simp [bind, Except.bind]

theorem exists_mem_of_forall₂ {α β : Type} {R : α → β → Prop} {as : List α} {bs : List β}
    (h : List.Forall₂ R as bs) : ∀ b ∈ bs, ∃ a ∈ as, R a b := by
  induction h with
  | nil => exact fun _ hb => absurd hb List.not_mem_nil
  | @cons a b as bs here _ ih =>
    refine List.forall_mem_cons.2 ⟨⟨a, List.mem_cons_self, here⟩, fun b' hb' => ?_⟩
    obtain ⟨a', ha', there⟩ := ih b' hb'
    exact ⟨a', List.mem_cons_of_mem a ha', there⟩

theorem render_append (ts us : List Token) : render (ts ++ us) = render ts ++ render us := by
  unfold render
  rw [List.flatMap_append, String.ofList_append]

theorem render_cons (t : Token) (ts : List Token) :
    render (t :: ts) = String.ofList t.text ++ render ts := by
  unfold render
  rw [List.flatMap_cons, String.ofList_append]

/-- Neither the end of an array nor `null`: with this token a value may begin that is there. -/
def Token.Begins (t : Token) : Prop :=
  t ≠ .closeBracket ∧ t ≠ .null

namespace Format

variable {α β : Type} {format : Format α} {C : α → Prop}

/-- What a format promises about the values of which `C` holds. -/
structure Lawful (format : Format α) (C : α → Prop) : Prop where
  read_write : ∀ {a}, C a → ∀ rest, format.read (format.write a ++ rest) = .ok (a, rest)
  of_read : ∀ {ts a rest}, format.read ts = .ok (a, rest) → C a
  legible : ∀ a, Token.Legible (format.write a)

/-- Every value begins with a token that neither ends an array nor is `null`. -/
def Begins (format : Format α) : Prop :=
  ∀ a, ∃ t ts, format.write a = t :: ts ∧ t.Begins

/-- The tokens are read as `a`, whatever follows them, and none of them is taken for the end of an
array. -/
structure Reads (format : Format α) (a : α) (ts : List Token) : Prop where
  read : ∀ rest, format.read (ts ++ rest) = .ok (a, rest)
  begins : ∃ t ts', ts = t :: ts' ∧ t ≠ .closeBracket

theorem Lawful.reads (h : format.Lawful C) (hb : format.Begins) {a : α} (ha : C a) :
    format.Reads a (format.write a) where
  read := h.read_write ha
  begins := by
    obtain ⟨t, ts, written, ht⟩ := hb a
    exact ⟨t, ts, written, ht.1⟩

theorem Reads.ne_nil {a : α} {ts : List Token} (h : format.Reads a ts) : ts ≠ [] := by
  obtain ⟨t, ts', rfl, -⟩ := h.begins
  exact List.cons_ne_nil t ts'

/-- A text is read as a value when the value takes up all its tokens. -/
theorem parse_eq_ok_iff {text : String} {a : α} :
    format.parse text = .ok a ↔ format.read (Token.scan text.toList) = .ok (a, []) := by
  unfold parse
  constructor
  · intro h
    obtain ⟨⟨b, rest⟩, hread, hend⟩ := bind_eq_ok_iff.1 h
    cases rest with
    | nil => cases hend; exact hread
    | cons => cases hend
  · intro h
    rw [h]
    rfl

theorem Lawful.parse_print (h : format.Lawful C) {a : α} (ha : C a) :
    format.parse (format.print a) = .ok a := by
  have written := h.read_write ha []
  rw [List.append_nil] at written
  rwa [parse_eq_ok_iff, print, (h.legible a).scan_render]

theorem Lawful.of_parse (h : format.Lawful C) {text : String} {a : α}
    (ha : format.parse text = .ok a) : C a :=
  h.of_read (parse_eq_ok_iff.1 ha)

/-- Reading a text undoes writing it for the values of which `C` holds, and every value that any
text is read as is one of them. -/
structure Faithful (format : Format α) (C : α → Prop) : Prop where
  parse_print : ∀ a, C a → format.parse (format.print a) = .ok a
  of_parse : ∀ text a, format.parse text = .ok a → C a
  parse_again : ∀ text a, format.parse text = .ok a → format.parse (format.print a) = .ok a

theorem Lawful.faithful (h : format.Lawful C) : format.Faithful C where
  parse_print _ ha := h.parse_print ha
  of_parse _ _ ha := h.of_parse ha
  parse_again _ _ ha := h.parse_print (h.of_parse ha)

/-- Different values are written differently. -/
theorem Lawful.print_injective (h : format.Lawful C) {a b : α} (ha : C a) (hb : C b)
    (heq : format.print a = format.print b) : a = b := by
  have read := h.parse_print ha
  rw [heq, h.parse_print hb, Except.ok.injEq] at read
  exact read.symm

/-! ## Single tokens -/

theorem readInteger_ofInt {make : Int → Option α} {n : Int} {a : α}
    (lower : -0x8000_0000_0000_0000 ≤ n) (upper : n < 0x8000_0000_0000_0000)
    (h : make n = some a) (rest : List Token) :
    readInteger make (.number (.ofInt n) :: rest) = .ok (a, rest) := by
  simp only [readInteger, Numeral.number?_ofInt lower upper, h]

theorem lawful_string : string.Lawful fun _ => True where
  read_write _ _ := rfl
  of_read _ := trivial
  legible s := Token.Firm.legible (t := .string s) trivial

theorem lawful_bool : bool.Lawful fun _ => True where
  read_write _ _ := rfl
  of_read _ := trivial
  legible b := Token.Firm.legible (t := .bool b) trivial

theorem read_option_null (rest : List Token) :
    format.option.read (.null :: rest) = .ok (none, rest) :=
  rfl

theorem read_option_of_ne_null {t : Token} (h : t ≠ .null) (ts : List Token) :
    format.option.read (t :: ts) =
      (format.read (t :: ts) >>= fun (a, rest) => .ok (some a, rest)) := by
  cases t with
  | null => exact absurd rfl h
  | _ => rfl

theorem Lawful.option (h : format.Lawful C) (hb : format.Begins) :
    format.option.Lawful fun o => ∀ a ∈ o, C a where
  read_write {o} ho rest := by
    cases o with
    | none => exact read_option_null rest
    | some a =>
      have back := h.read_write (ho a rfl) rest
      obtain ⟨t, ts, written, ht⟩ := hb a
      rw [written, List.cons_append] at back
      change format.option.read (format.write a ++ rest) = _
      rw [written, List.cons_append, read_option_of_ne_null ht.2, back]
      rfl
  of_read {ts o rest} ho a ha := by
    simp only [Format.option] at ho
    split at ho
    · cases ho
      cases ha
    · obtain ⟨⟨a', rest'⟩, hread, heq⟩ := bind_eq_ok_iff.1 ho
      cases heq
      cases ha
      exact h.of_read hread
  legible o := by
    cases o with
    | none => exact Token.Firm.legible (t := .null) trivial
    | some a => exact h.legible a

/-- Another type's format, on the values that go back to values of which `C` holds. -/
theorem Lawful.map (h : format.Lawful C) {make : α → β} {back : β → α} {D : β → Prop}
    (hmake : ∀ a, C a → D (make a)) (hback : ∀ b, D b → C (back b))
    (hround : ∀ b, D b → make (back b) = b) : (format.map make back).Lawful D where
  read_write {b} hb rest := by
    simp only [Format.map, h.read_write (hback b hb) rest, ok_bind, hround b hb]
  of_read {ts b rest} hb := by
    obtain ⟨⟨a, rest'⟩, hread, heq⟩ := bind_eq_ok_iff.1 hb
    cases heq
    exact hmake a (h.of_read hread)
  legible b := h.legible (back b)

/-! ## Lists -/

/-- What holds of no tokens and stays true when a comma is put between holds of separated parts. -/
theorem separated_induction {P : List Token → Prop} (nil : P [])
    (comma : ∀ {ts us : List Token}, P ts → P us → P (ts ++ .comma :: us))
    {parts : List (List Token)} (h : ∀ part ∈ parts, P part) : P (separated parts) := by
  induction parts using separated.induct with
  | case1 => exact nil
  | case2 part => exact h part List.mem_cons_self
  | case3 part rest _ ih =>
    rw [separated]
    · exact comma (h part List.mem_cons_self) (ih fun p hp => h p (List.mem_cons_of_mem _ hp))
    · assumption

/-- What stands between two firm tokens, with commas between its parts. -/
theorem legible_enclosed {parts : List (List Token)} (hparts : ∀ p ∈ parts, Token.Legible p)
    {t u : Token} (ht : t.Firm) (hu : u.Firm) : Token.Legible (t :: separated parts ++ [u]) :=
  have inner : Token.Legible (separated parts) :=
    separated_induction (P := Token.Legible) Token.legible_nil
      (fun hts hus => hts.append_cons (t := .comma) trivial hus) hparts
  ht.legible_cons (inner.append_cons hu Token.legible_nil)

theorem separate_enclosed {parts : List (List Token)} (hparts : ∀ p ∈ parts, Token.Separate p)
    {t u : Token} (ht : t.isNumber = false) (hu : u.isNumber = false) :
    Token.Separate (t :: separated parts ++ [u]) :=
  have inner : Token.Separate (separated parts) :=
    separated_induction (P := Token.Separate) Token.separate_nil
      (fun hts hus => hts.append_cons rfl hus) hparts
  (inner.append_cons hu Token.separate_nil).cons ht

/-- The parts of a list from some place on: with a comma in front of each, but none in front of the
first part of all. -/
def commas (first : Bool) : List (List Token) → List Token
  | [] => []
  | part :: rest => (if first then part else .comma :: part) ++ commas false rest

theorem separated_eq_commas (parts : List (List Token)) : separated parts = commas true parts := by
  induction parts using separated.induct with
  | case1 => rfl
  | case2 part => exact (List.append_nil part).symm
  | case3 part rest hne ih =>
    rw [separated, ih]
    · cases rest with
      | nil => exact absurd rfl hne
      | cons next rest => rfl
    · assumption

/-- The tokens of an array. -/
def array (parts : List (List Token)) : List Token :=
  .openBracket :: separated parts ++ [.closeBracket]

theorem array_append (parts : List (List Token)) (rest : List Token) :
    array parts ++ rest = .openBracket :: (commas true parts ++ .closeBracket :: rest) := by
  rw [array, separated_eq_commas, List.append_assoc, List.cons_append, List.singleton_append]

theorem begins_array (parts : List (List Token)) :
    ∃ t ts, array parts = t :: ts ∧ t ≠ .closeBracket :=
  ⟨.openBracket, _, rfl, by simp⟩

theorem separate_array {parts : List (List Token)} (h : ∀ part ∈ parts, Token.Separate part) :
    Token.Separate (array parts) :=
  separate_enclosed h rfl rfl

/-- Parts of at least one token each leave enough fuel for reading them. -/
theorem length_le_commas {parts : List (List Token)} (h : ∀ part ∈ parts, part ≠ [])
    (first : Bool) : parts.length ≤ (commas first parts).length := by
  induction parts generalizing first with
  | nil => exact Nat.le_refl 0
  | cons part parts ih =>
    obtain ⟨here, later⟩ := List.forall_mem_cons.1 h
    have later := ih later false
    have here := List.length_pos_iff.2 here
    rw [commas, List.length_append, List.length_cons]
    cases first with
    | true =>
      rw [if_pos rfl]
      omega
    | false =>
      rw [if_neg Bool.false_ne_true, List.length_cons]
      omega

theorem nextElement_commas {part : List Token} (h : ∃ t ts, part = t :: ts ∧ t ≠ .closeBracket)
    (first : Bool) (parts : List (List Token)) (rest : List Token) :
    nextElement first (commas first (part :: parts) ++ rest) =
      .ok (true, part ++ (commas false parts ++ rest)) := by
  obtain ⟨t, ts, rfl, ht⟩ := h
  cases first with
  | true =>
    simp only [commas, if_true, List.cons_append, List.append_assoc]
    cases t with
    | closeBracket => exact absurd rfl ht
    | _ => rfl
  | false =>
    simp only [commas, Bool.false_eq_true, if_false, List.cons_append, List.append_assoc]
    cases t with
    | closeBracket => exact absurd rfl ht
    | _ => rfl

theorem readElements_commas {as : List α} {parts : List (List Token)}
    (h : List.Forall₂ format.Reads as parts) {fuel : Nat} (hfuel : parts.length < fuel)
    (first : Bool) (rest : List Token) :
    readElements format.read fuel first (commas first parts ++ .closeBracket :: rest) =
      .ok (as, .closeBracket :: rest) := by
  induction h generalizing fuel first with
  | nil =>
    obtain ⟨fuel, rfl⟩ := Nat.exists_eq_add_one_of_ne_zero (Nat.ne_of_gt hfuel)
    rfl
  | cons here _ ih =>
    obtain ⟨fuel, rfl⟩ := Nat.exists_eq_add_one_of_ne_zero (Nat.ne_of_gt (Nat.zero_lt_of_lt hfuel))
    have later := ih (Nat.lt_of_succ_lt_succ hfuel) false
    rw [readElements, nextElement_commas here.begins, ok_bind]
    simp only [if_true, here.read, ok_bind, later]

/-- An array is read as the values that its parts are read as. -/
theorem reads_list {as : List α} {parts : List (List Token)}
    (h : List.Forall₂ format.Reads as parts) : format.list.Reads as (array parts) where
  read rest := by
    have nonempty : ∀ part ∈ parts, part ≠ [] := fun part hpart => by
      obtain ⟨a, -, ha⟩ := exists_mem_of_forall₂ h part hpart
      exact ha.ne_nil
    have enough := length_le_commas nonempty true
    rw [array_append]
    simp only [Format.list]
    rw [readElements_commas h (by rw [List.length_append]; omega)]
    rfl
  begins := begins_array parts

theorem of_readElements {read : Reader α} (h : ∀ {ts a rest}, read ts = .ok (a, rest) → C a)
    {fuel : Nat} {first : Bool} {ts rest : List Token} {as : List α}
    (has : readElements read fuel first ts = .ok (as, rest)) : ∀ a ∈ as, C a := by
  induction fuel generalizing first ts rest as with
  | zero => cases has
  | succ fuel ih =>
    obtain ⟨⟨more, ts₁⟩, -, has⟩ := bind_eq_ok_iff.1 has
    cases more with
    | false =>
      cases has
      exact fun _ ha => absurd ha List.not_mem_nil
    | true =>
      obtain ⟨⟨b, ts₂⟩, hread, has⟩ := bind_eq_ok_iff.1 has
      obtain ⟨⟨bs, ts₃⟩, hlater, heq⟩ := bind_eq_ok_iff.1 has
      cases heq
      exact List.forall_mem_cons.2 ⟨h hread, ih hlater⟩

theorem Lawful.list (h : format.Lawful C) (hb : format.Begins) :
    format.list.Lawful fun as => ∀ a ∈ as, C a where
  read_write {as} has := (reads_list (List.forall₂_map_right_iff.2
    (List.forall₂_same.2 fun a ha => h.reads hb (has a ha)))).read
  of_read {ts as rest} has := by
    simp only [Format.list] at has
    split at has
    · obtain ⟨⟨as', ts₁⟩, hread, has⟩ := bind_eq_ok_iff.1 has
      obtain ⟨ts₂, -, heq⟩ := bind_eq_ok_iff.1 has
      cases heq
      exact of_readElements h.of_read hread
    · cases has
  legible as := by
    have parts : ∀ p ∈ as.map format.write, Token.Legible p :=
      List.forall_mem_map.2 fun a _ => h.legible a
    exact legible_enclosed parts (t := .openBracket) (u := .closeBracket) trivial trivial

/-! ## Maps -/

/-- A member of an object, given by its key and the tokens of its value. -/
def member (m : String × List Token) : List Token :=
  .string m.1 :: .colon :: m.2

/-- The tokens of an object. -/
def object (members : List (String × List Token)) : List Token :=
  .openBrace :: separated (members.map member) ++ [.closeBrace]

theorem object_append (members : List (String × List Token)) (rest : List Token) :
    object members ++ rest =
      .openBrace :: (commas true (members.map member) ++ .closeBrace :: rest) := by
  rw [object, separated_eq_commas, List.append_assoc, List.cons_append, List.singleton_append]

theorem begins_object (members : List (String × List Token)) :
    ∃ t ts, object members = t :: ts ∧ t ≠ .closeBracket :=
  ⟨.openBrace, _, rfl, by simp⟩

theorem separate_object {members : List (String × List Token)}
    (h : ∀ m ∈ members, Token.Separate m.2) : Token.Separate (object members) := by
  refine separate_enclosed (List.forall_mem_map.2 fun m hm => ?_) rfl rfl
  have value : Token.Separate (.colon :: m.2) := (h m hm).cons rfl
  exact value.cons rfl

theorem nextKey_commas (m : String × List Token) (first : Bool) (parts : List (List Token))
    (rest : List Token) :
    nextKey first (commas first (member m :: parts) ++ rest) =
      .ok (some m.1, .colon :: (m.2 ++ (commas false parts ++ rest))) := by
  cases first with
  | true => simp [commas, member, nextKey]
  | false => simp [commas, member, nextKey]

theorem expect_self (t : Token) (ts : List Token) : expect t (t :: ts) = .ok ts :=
  if_pos rfl

theorem length_le_commas_member (members : List (String × List Token)) (first : Bool) :
    members.length ≤ (commas first (members.map member)).length := by
  have nonempty : ∀ part ∈ members.map member, part ≠ [] :=
    List.forall_mem_map.2 fun _ _ => List.cons_ne_nil _ _
  have enough := length_le_commas nonempty first
  rwa [List.length_map] at enough

theorem readEntries_commas {entries : List (String × α)} {members : List (String × List Token)}
    (h : List.Forall₂ (fun entry m => entry.1 = m.1 ∧
      ∀ rest, format.read (m.2 ++ rest) = .ok (entry.2, rest)) entries members)
    {fuel : Nat} (hfuel : members.length < fuel) (first : Bool) (rest : List Token) :
    readEntries format.read fuel first (commas first (members.map member) ++ .closeBrace :: rest) =
      .ok (entries, .closeBrace :: rest) := by
  induction h generalizing fuel first with
  | nil =>
    obtain ⟨fuel, rfl⟩ := Nat.exists_eq_add_one_of_ne_zero (Nat.ne_of_gt hfuel)
    rfl
  | cons here _ ih =>
    obtain ⟨fuel, rfl⟩ := Nat.exists_eq_add_one_of_ne_zero (Nat.ne_of_gt (Nat.zero_lt_of_lt hfuel))
    obtain ⟨key, here⟩ := here
    have later := ih (Nat.lt_of_succ_lt_succ hfuel) false
    rw [List.map_cons, readEntries, nextKey_commas, ok_bind]
    simp only [expect_self, ok_bind, here, later, ← key]

/-- An object is read as the entries that its members are read as, in their order. -/
theorem reads_entries {entries : List (String × α)} {members : List (String × List Token)}
    (h : List.Forall₂ (fun entry m => entry.1 = m.1 ∧
      ∀ rest, format.read (m.2 ++ rest) = .ok (entry.2, rest)) entries members)
    (expected : String) : (format.entries expected).Reads entries (object members) where
  read rest := by
    have enough := length_le_commas_member members true
    rw [object_append]
    simp only [Format.entries]
    rw [readEntries_commas h (by rw [List.length_append]; omega)]
    rfl
  begins := begins_object members

theorem of_readEntries {read : Reader α} (h : ∀ {ts a rest}, read ts = .ok (a, rest) → C a)
    {fuel : Nat} {first : Bool} {ts rest : List Token} {entries : List (String × α)}
    (hread : readEntries read fuel first ts = .ok (entries, rest)) :
    ∀ entry ∈ entries, C entry.2 := by
  induction fuel generalizing first ts rest entries with
  | zero => cases hread
  | succ fuel ih =>
    obtain ⟨⟨key?, ts₁⟩, -, hread⟩ := bind_eq_ok_iff.1 hread
    cases key? with
    | none =>
      cases hread
      exact fun _ he => absurd he List.not_mem_nil
    | some key =>
      obtain ⟨ts₂, -, hread⟩ := bind_eq_ok_iff.1 hread
      obtain ⟨⟨a, ts₃⟩, hvalue, hread⟩ := bind_eq_ok_iff.1 hread
      obtain ⟨⟨later, ts₄⟩, hlater, heq⟩ := bind_eq_ok_iff.1 hread
      cases heq
      exact List.forall_mem_cons.2 ⟨h hvalue, ih hlater⟩

theorem legible_member (key : String) {ts : List Token} (h : Token.Legible ts) :
    Token.Legible (.string key :: .colon :: ts) :=
  Token.Firm.legible_cons (t := .string key) trivial
    (Token.Firm.legible_cons (t := .colon) trivial h)

theorem Lawful.entries (h : format.Lawful C) (expected : String) :
    (format.entries expected).Lawful fun entries => ∀ entry ∈ entries, C entry.2 where
  read_write {entries} hC rest := by
    have members : List.Forall₂ (fun entry m => entry.1 = m.1 ∧
        ∀ rest, format.read (m.2 ++ rest) = .ok (entry.2, rest)) entries
        (entries.map fun entry => (entry.1, format.write entry.2)) :=
      List.forall₂_map_right_iff.2 (List.forall₂_same.2 fun entry hentry =>
        ⟨rfl, h.read_write (hC entry hentry)⟩)
    have written := (reads_entries members expected).read rest
    rwa [object, List.map_map] at written
  of_read {ts entries rest} hread := by
    simp only [Format.entries] at hread
    split at hread
    · obtain ⟨⟨entries', ts₁⟩, hentries, hread⟩ := bind_eq_ok_iff.1 hread
      obtain ⟨ts₂, -, heq⟩ := bind_eq_ok_iff.1 hread
      cases heq
      exact of_readEntries h.of_read hentries
    · cases hread
  legible entries := by
    have parts : ∀ p ∈ entries.map (writeEntry format.write), Token.Legible p :=
      List.forall_mem_map.2 fun entry _ => legible_member entry.1 (h.legible entry.2)
    exact legible_enclosed parts (t := .openBrace) (u := .closeBrace) trivial trivial

theorem begins_entries (expected : String) : (format.entries expected).Begins :=
  fun entries => ⟨.openBrace, _, rfl, by simp [Token.Begins]⟩

/-! ### The text of a map -/

theorem render_separated (parts : List (List Token)) :
    render (separated parts) = ",".intercalate (parts.map render) := by
  induction parts using separated.induct with
  | case1 => rfl
  | case2 part => exact String.intercalate_singleton.symm
  | case3 part rest hne ih =>
    have next : rest.map render ≠ [] := fun h => hne (List.map_eq_nil_iff.1 h)
    rw [separated, render_append, render_cons, ih, List.map_cons,
      String.intercalate_cons_of_ne_nil next, String.append_assoc]
    · rfl
    · exact hne

theorem render_writeEntry (format : Format α) (entry : String × α) :
    render (writeEntry format.write entry) =
      string.print entry.1 ++ ":" ++ format.print entry.2 := by
  show render ([.string entry.1] ++ [.colon] ++ format.write entry.2) = _
  rw [render_append, render_append]
  rfl

/-- Entries are written in braces, with a colon after each key and commas between. -/
theorem print_entries (format : Format α) (expected : String) (es : List (String × α)) :
    (format.entries expected).print es =
      "\x7b" ++ ",".intercalate
        (es.map fun entry => string.print entry.1 ++ ":" ++ format.print entry.2) ++ "\x7d" := by
  show render (.openBrace :: separated (es.map (writeEntry format.write)) ++ [.closeBrace]) = _
  rw [render_append, render_cons, render_separated, List.map_map]
  simp only [Function.comp_def, render_writeEntry]
  rfl

end Format

end TextAdventure.Json
