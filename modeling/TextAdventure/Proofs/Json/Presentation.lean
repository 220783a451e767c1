import TextAdventure.Proofs.Json.Record
import TextAdventure.Proofs.Json.Skip

/-!
# Presentations

A value may be written in more ways than one. A presentation tells which tokens show a value, apart
from any format: the fields of a record may stand in an object in any order, with members that are
none of its fields among them, or in an array. Formats whose fields match those of a presentation
take everything that it shows for the value shown (`Record.accepts`), however the tokens are
laid out as a text (`Format.Takes.parse_eq`).
-/

namespace TextAdventure.Json

open Format (separated member)

/-- Which tokens show a value. -/
abbrev Presentation (α : Type) : Type :=
  α → List Token → Prop

namespace Presentation

variable {α β : Type}

/-! ## Ways to show a value -/

def integer : Presentation Int :=
  fun n ts => ts = [.number (.ofInt n)]

def string : Presentation String :=
  fun s ts => ts = [.string s]

def bool : Presentation Bool :=
  fun b ts => ts = [.bool b]

/-- A value, or `null` if there is none. -/
inductive orNull (P : Presentation α) : Presentation (Option α)
  | null : orNull P none [.null]
  | some {a : α} {ts : List Token} (h : P a ts) : orNull P (some a) ts

/-- An array of the elements, in their order. -/
inductive list (P : Presentation α) : Presentation (List α)
  | intro {as : List α} {parts : List (List Token)} (h : List.Forall₂ P as parts) :
    list P as (Format.array parts)

/-- An object with a member for each entry, in the order of the entries. -/
inductive entries (P : Presentation α) : Presentation (List (String × α))
  | intro {es : List (String × α)} {members : List (String × List Token)}
    (h : List.Forall₂ (fun e m => e.1 = m.1 ∧ P e.2 m.2) es members) :
    entries P es (Format.object members)

/-- A field of a record type. -/
structure Field (α : Type) where
  key : String
  /-- Which tokens show the field of a record. -/
  shown : Presentation α
  /-- For which records the field may be missing. -/
  mayLack : α → Prop := fun _ => False

/-- An object with the fields in any order, each at most once, and with any values under other keys,
or an array of the fields in their order. -/
inductive record (fields : List (Field α)) : Presentation α
  | object {a : α} {members : List (String × List Token)}
    (hshown : ∀ f ∈ fields, ∀ m ∈ members, m.1 = f.key → f.shown a m.2)
    (hlack : ∀ f ∈ fields, (∀ m ∈ members, m.1 ≠ f.key) → f.mayLack a)
    (hother : ∀ m ∈ members, (∀ f ∈ fields, m.1 ≠ f.key) → IsValue m.2)
    (honce : members.Pairwise fun m n => m.1 = n.1 → ∀ f ∈ fields, m.1 ≠ f.key) :
    record fields a (Format.object members)
  | array {a : α} {present lacking : List (Field α)} {parts : List (List Token)}
    (hfields : fields = present ++ lacking)
    (hshown : List.Forall₂ (fun f part => f.shown a part) present parts)
    (hlack : ∀ f ∈ lacking, f.mayLack a) :
    record fields a (Format.array parts)

end Presentation

/-! ## Taking what is shown -/

namespace Format

variable {α β : Type} {format : Format α}

/-- The tokens are read as `a`, and however they are written they are told apart. -/
structure Takes (format : Format α) (a : α) (ts : List Token) : Prop extends
    format.Reads a ts where
  separate : Token.Separate ts

/-- A text is read as `a` however its tokens are laid out in it. -/
theorem Takes.parse_eq {a : α} {ts : List Token} (h : format.Takes a ts) {text : String}
    (htext : Token.Layout ts text.toList) : format.parse text = .ok a := by
  have whole := h.read []
  rw [List.append_nil] at whole
  rwa [parse_eq_ok_iff, htext.scan_eq h.separate]

/-- Whatever shows a value of which `C` holds is taken for it. -/
def Accepts (format : Format α) (P : Presentation α) (C : α → Prop) : Prop :=
  ∀ a, C a → ∀ ts, P a ts → format.Takes a ts

variable {P : Presentation α} {C : α → Prop}

theorem accepts_string : string.Accepts Presentation.string fun _ => True := by
  rintro s - _ rfl
  exact ⟨⟨fun _ => rfl, _, _, rfl, by simp⟩, Token.separate_singleton _⟩

theorem accepts_bool : bool.Accepts Presentation.bool fun _ => True := by
  rintro b - _ rfl
  exact ⟨⟨fun _ => rfl, _, _, rfl, by simp⟩, Token.separate_singleton _⟩

theorem Accepts.option (h : format.Accepts P C)
    (hnull : ∀ a ts, P a ts → ∀ t ∈ ts.head?, t ≠ .null) :
    format.option.Accepts (.orNull P) fun o => ∀ a ∈ o, C a := by
  intro o ho ts hts
  cases hts with
  | null => exact ⟨⟨read_option_null, _, _, rfl, by simp⟩, Token.separate_singleton _⟩
  | @some a ts ha =>
    have takes := h a (ho a rfl) ts ha
    refine ⟨⟨fun rest => ?_, takes.begins⟩, takes.separate⟩
    have back := takes.read rest
    obtain ⟨t, ts, rfl, -⟩ := takes.begins
    rw [List.cons_append] at back ⊢
    rw [read_option_of_ne_null (hnull a _ ha t rfl), back]
    rfl

/-- What is taken for a value is taken for what is made of it, too. -/
theorem Takes.map {a : α} {ts : List Token} (h : format.Takes a ts) {make : α → β}
    {back : β → α} : (format.map make back).Takes (make a) ts := by
  refine ⟨⟨fun rest => ?_, h.begins⟩, h.separate⟩
  simp only [Format.map, h.read rest, ok_bind]

/-- Another type's format takes what shows the values that its own values are made into. -/
theorem Accepts.map (h : format.Accepts P C) {make : α → β} {back : β → α} {Q : Presentation β}
    {D : β → Prop} (hQ : ∀ b, D b → ∀ ts, Q b ts → ∃ a, C a ∧ P a ts ∧ make a = b) :
    (format.map make back).Accepts Q D := by
  intro b hb ts hts
  obtain ⟨a, ha, hshown, rfl⟩ := hQ b hb ts hts
  exact (h a ha ts hshown).map

theorem Accepts.list (h : format.Accepts P C) :
    format.list.Accepts (.list P) fun as => ∀ a ∈ as, C a := by
  rintro as has _ ⟨hparts⟩
  have takes : List.Forall₂ format.Takes as _ :=
    ((List.forall₂_and_left _ _).2 ⟨has, hparts⟩).imp fun a part here => h a here.1 part here.2
  refine ⟨reads_list (takes.imp fun _ _ here => here.toReads), ?_⟩
  refine separate_array fun part hpart => ?_
  obtain ⟨a, -, ha⟩ := exists_mem_of_forall₂ takes part hpart
  exact ha.separate

theorem Accepts.entries (h : format.Accepts P C) (expected : String) :
    (format.entries expected).Accepts (.entries P) fun es => ∀ e ∈ es, C e.2 := by
  rintro es hes _ ⟨hmembers⟩
  have takes := ((List.forall₂_and_left _ _).2 ⟨hes, hmembers⟩).imp fun e m here =>
    And.intro here.2.1 (h e.2 here.1 m.2 here.2.2)
  refine ⟨reads_entries (takes.imp fun _ _ here => ⟨here.1, here.2.read⟩) expected, ?_⟩
  refine separate_object fun m hm => ?_
  obtain ⟨e, -, -, he⟩ := exists_mem_of_forall₂ takes m hm
  exact he.separate

/-! ## Writing -/

/-- What is written for a value is one of the ways to show it, and all of it can be written. -/
def Shows (format : Format α) (P : Presentation α) : Prop :=
  ∀ a, P a (format.write a) ∧ ∀ t ∈ format.write a, t.Spelled t.text

theorem shows_string : string.Shows Presentation.string :=
  fun s => ⟨rfl, List.forall_mem_singleton.2 (Token.Firm.spelled (t := .string s) trivial)⟩

theorem shows_bool : bool.Shows Presentation.bool :=
  fun b => ⟨rfl, List.forall_mem_singleton.2 (Token.Firm.spelled (t := .bool b) trivial)⟩

theorem Shows.option (h : format.Shows P) : format.option.Shows (.orNull P)
  | none => ⟨.null, List.forall_mem_singleton.2 (Token.Firm.spelled (t := .null) trivial)⟩
  | some a => ⟨.some (h a).1, (h a).2⟩

theorem Shows.map (h : format.Shows P) {make : α → β} {back : β → α} {Q : Presentation β}
    (hQ : ∀ b ts, P (back b) ts → Q b ts) : (format.map make back).Shows Q :=
  fun b => ⟨hQ b _ (h (back b)).1, (h (back b)).2⟩

theorem spelled_enclosed {parts : List (List Token)}
    (h : ∀ part ∈ parts, ∀ t ∈ part, t.Spelled t.text) {t u : Token} (ht : t.Firm) (hu : u.Firm) :
    ∀ v ∈ t :: separated parts ++ [u], v.Spelled v.text := by
  have inner : ∀ v ∈ separated parts, v.Spelled v.text := by
    refine separated_induction (P := fun ts => ∀ v ∈ ts, v.Spelled v.text)
      (fun v hv => absurd hv List.not_mem_nil) (fun hts hus => ?_) h
    exact List.forall_mem_append.2
      ⟨hts, List.forall_mem_cons.2 ⟨Token.Firm.spelled (t := .comma) trivial, hus⟩⟩
  exact List.forall_mem_append.2
    ⟨List.forall_mem_cons.2 ⟨ht.spelled, inner⟩, List.forall_mem_singleton.2 hu.spelled⟩

theorem spelled_array {parts : List (List Token)}
    (h : ∀ part ∈ parts, ∀ t ∈ part, t.Spelled t.text) : ∀ t ∈ array parts, t.Spelled t.text :=
  spelled_enclosed h (t := .openBracket) (u := .closeBracket) trivial trivial

theorem spelled_object {members : List (String × List Token)}
    (h : ∀ m ∈ members, ∀ t ∈ m.2, t.Spelled t.text) : ∀ t ∈ object members, t.Spelled t.text := by
  refine spelled_enclosed (List.forall_mem_map.2 fun m hm => ?_)
    (t := .openBrace) (u := .closeBrace) trivial trivial
  exact List.forall_mem_cons.2 ⟨Token.Firm.spelled (t := .string m.1) trivial,
    List.forall_mem_cons.2 ⟨Token.Firm.spelled (t := .colon) trivial, h m hm⟩⟩

theorem Shows.list (h : format.Shows P) : format.list.Shows (.list P) := by
  refine fun as => ⟨.intro ?_, ?_⟩
  · exact List.forall₂_map_right_iff.2 (List.forall₂_same.2 fun a _ => (h a).1)
  · exact spelled_array (List.forall_mem_map.2 fun a _ => (h a).2)

theorem Shows.entries (h : format.Shows P) (expected : String) :
    (format.entries expected).Shows (.entries P) := by
  intro es
  have members : List.Forall₂ (fun e m => e.1 = m.1 ∧ P e.2 m.2) es
      (es.map fun e => (e.1, format.write e.2)) :=
    List.forall₂_map_right_iff.2 (List.forall₂_same.2 fun e _ => ⟨rfl, (h e.2).1⟩)
  have written : (format.entries expected).write es =
      object (es.map fun e => (e.1, format.write e.2)) := by
    rw [object, List.map_map]
    rfl
  rw [written]
  exact ⟨.intro members, spelled_object (List.forall_mem_map.2 fun e _ => (h e.2).2)⟩

/-- The text that is written for a value is a layout of tokens that show it. -/
theorem Shows.exists_layout (h : format.Shows P) (a : α) :
    ∃ ts, P a ts ∧ Token.Layout ts (format.print a).toList := by
  refine ⟨format.write a, (h a).1, ?_⟩
  rw [print, render, String.toList_ofList]
  exact Token.layout_flatMap (fun _ hc => absurd hc List.not_mem_nil) (h a).2

end Format

/-! ## Records -/

namespace Record

variable {α : Type} {R : Record α}

/-- What is shown for the field `f` of `a` is taken for its field `g`. -/
structure Matches (R : Record α) (a : α) (f : Presentation.Field α) (g : R.Field) : Prop where
  key : f.key = R.key g
  takes : ∀ ts, f.shown a ts → (R.format g).Takes (R.get a g) ts
  default : f.mayLack a → R.default? g = some (R.get a g)

theorem key_of_field? {key : String} {g : R.Field} (h : R.field? key = some g) : R.key g = key := by
  have found := List.find?_some h
  rwa [decide_eq_true_eq] at found

section Matching

variable {a : α} {fields : List (Presentation.Field α)}
  (h : List.Forall₂ (R.Matches a) fields R.fields)

include h

theorem exists_shown (g : R.Field) : ∃ f ∈ fields, R.Matches a f g :=
  exists_mem_of_forall₂ h g (R.complete g)

/-- A key that no field of the presentation has is none of the record type's. -/
theorem field?_eq_none_iff {key : String} :
    R.field? key = none ↔ ∀ f ∈ fields, key ≠ f.key := by
  constructor
  · rintro hnone f hf rfl
    obtain ⟨g, -, hg⟩ := exists_mem_of_forall₂ h.flip f hf
    rw [Matches.key hg, field?_key] at hnone
    cases hnone
  · intro hother
    cases hkey : R.field? key with
    | none => rfl
    | some g =>
      obtain ⟨f, hf, hg⟩ := exists_shown h g
      exact absurd (key_of_field? hkey).symm (hg.key ▸ hother f hf)

theorem separate_members {members : List (String × List Token)}
    (hshown : ∀ f ∈ fields, ∀ m ∈ members, m.1 = f.key → f.shown a m.2)
    (hother : ∀ m ∈ members, (∀ f ∈ fields, m.1 ≠ f.key) → IsValue m.2) :
    ∀ m ∈ members, Token.Separate m.2 := by
  intro m hm
  cases hkey : R.field? m.1 with
  | none => exact (hother m hm ((field?_eq_none_iff h).1 hkey)).separate
  | some g =>
    obtain ⟨f, hf, hg⟩ := exists_shown h g
    have same : m.1 = f.key := by rw [hg.key, key_of_field? hkey]
    exact (hg.takes m.2 (hshown f hf m hm same)).separate

/-- The members that show a record give its fields. -/
theorem gives_shown {members : List (String × List Token)}
    (hshown : ∀ f ∈ fields, ∀ m ∈ members, m.1 = f.key → f.shown a m.2)
    (hother : ∀ m ∈ members, (∀ f ∈ fields, m.1 ≠ f.key) → IsValue m.2)
    (honce : members.Pairwise fun m n => m.1 = n.1 → ∀ f ∈ fields, m.1 ≠ f.key) :
    R.Gives a members where
  read m hm g hkey := by
    obtain ⟨f, hf, hg⟩ := exists_shown h g
    have same : m.1 = f.key := by rw [hg.key, key_of_field? hkey]
    exact (hg.takes m.2 (hshown f hf m hm same)).read
  skip m hm hkey := (hother m hm ((field?_eq_none_iff h).1 hkey)).skip?_append
  distinct := by
    refine List.pairwise_filterMap.2 (honce.imp fun {m n} once g hm g' hn heq => ?_)
    subst heq
    have same : m.1 = n.1 := by rw [← key_of_field? hm, key_of_field? hn]
    rw [(field?_eq_none_iff h).2 (once same)] at hm
    cases hm

/-- A field that no member gives has its default. -/
theorem default_of_not_given {members : List (String × List Token)}
    (hlack : ∀ f ∈ fields, (∀ m ∈ members, m.1 ≠ f.key) → f.mayLack a) {g : R.Field}
    (hg : g ∉ R.given members) : R.default? g = some (R.get a g) := by
  obtain ⟨f, hf, hmatches⟩ := exists_shown h g
  refine hmatches.default (hlack f hf fun m hm hkey => hg ?_)
  exact List.mem_filterMap.2 ⟨m, hm, by rw [hkey, hmatches.key, field?_key]⟩

end Matching

/-- What is shown for the first fields of a presentation is taken for the first fields of the record
type. -/
theorem forall₂_takes {a : α} {fs : List (Presentation.Field α)} {gs : List R.Field}
    {parts : List (List Token)} (h : List.Forall₂ (R.Matches a) fs gs)
    (hshown : List.Forall₂ (fun f part => f.shown a part) fs parts) :
    List.Forall₂ (fun g part => (R.format g).Takes (R.get a g) part) gs parts := by
  induction hshown generalizing gs with
  | nil =>
    cases h
    exact .nil
  | cons here _ ih =>
    cases h with
    | cons hmatches h => exact .cons (hmatches.takes _ here) (ih h)

/-- All that shows a record is taken for it. -/
theorem accepts {fields : List (Presentation.Field α)} {C : α → Prop}
    (h : ∀ a, C a → List.Forall₂ (R.Matches a) fields R.fields) :
    R.toFormat.Accepts (Presentation.record fields) C := by
  intro a ha ts hts
  replace h := h a ha
  cases hts with
  | object hshown hlack hother honce =>
    exact
      { toReads := reads_object (gives_shown h hshown hother honce)
          fun g => default_of_not_given h hlack
        separate := Format.separate_object (separate_members h hshown hother) }
  | @array _ present lacking parts hfields hshown hlack =>
    subst hfields
    have hfields := (List.take_append_drop present.length R.fields).symm
    have hpresent := (List.forall₂_take_append _ _ _ h.flip).flip
    have hlacking := (List.forall₂_drop_append _ _ _ h.flip).flip
    have takes := forall₂_takes hpresent hshown
    refine
      { toReads := reads_array hfields (takes.imp fun _ _ here => here.toReads) fun g hg => ?_
        separate := Format.separate_array fun part hpart => ?_ }
    · obtain ⟨f, hf, hmatches⟩ := exists_mem_of_forall₂ hlacking g hg
      exact hmatches.default (hlack f hf)
    · obtain ⟨g, -, hg⟩ := exists_mem_of_forall₂ takes part hpart
      exact hg.separate

/-! ### Writing -/

/-- What is written for the field `g` of `a` shows the field `f`, which may be missing where `g` is
omitted. -/
structure Prints (R : Record α) (a : α) (f : Presentation.Field α) (g : R.Field) : Prop where
  key : f.key = R.key g
  shown : f.shown a ((R.format g).write (R.get a g))
  spelled : ∀ t ∈ (R.format g).write (R.get a g), t.Spelled t.text
  lack : R.omits g (R.get a g) = true → f.mayLack a

theorem shows {fields : List (Presentation.Field α)}
    (h : ∀ a, List.Forall₂ (R.Prints a) fields R.fields) :
    R.toFormat.Shows (Presentation.record fields) := by
  intro a
  have paired : ∀ f ∈ fields, ∃ g ∈ R.fields, R.Prints a f g := exists_mem_of_forall₂ (h a).flip
  have printed (g : R.Field) : ∃ f ∈ fields, R.Prints a f g :=
    exists_mem_of_forall₂ (h a) g (R.complete g)
  have members : ∀ m ∈ R.members a, ∃ g ∈ R.written a,
      (R.key g, (R.format g).write (R.get a g)) = m := fun m hm => List.mem_map.1 hm
  change Presentation.record fields a (R.write a) ∧ ∀ t ∈ R.write a, t.Spelled t.text
  rw [write_eq]
  refine ⟨.object ?_ ?_ ?_ ?_, ?_⟩
  · intro f hf m hm hkey
    obtain ⟨g, -, hprints⟩ := paired f hf
    obtain ⟨g', -, rfl⟩ := members m hm
    cases R.key_injective g' g (hkey.trans hprints.key)
    exact hprints.shown
  · intro f hf hnone
    obtain ⟨g, -, hprints⟩ := paired f hf
    refine hprints.lack (by_contra fun homits => ?_)
    have hg := mem_written.2 (Bool.not_eq_true _ ▸ homits)
    exact hnone _ (List.mem_map_of_mem hg) hprints.key.symm
  · intro m hm hother
    obtain ⟨g, -, rfl⟩ := members m hm
    obtain ⟨f, hf, hprints⟩ := printed g
    exact absurd hprints.key.symm (hother f hf)
  · refine List.pairwise_map.2 ((nodup_written a).imp fun {g g'} hne heq => ?_)
    exact absurd (R.key_injective g g' heq) hne
  · refine Format.spelled_object fun m hm => ?_
    obtain ⟨g, -, rfl⟩ := members m hm
    obtain ⟨f, -, hprints⟩ := printed g
    exact hprints.spelled

end Record

end TextAdventure.Json
