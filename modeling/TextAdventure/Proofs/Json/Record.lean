import TextAdventure.Json.Record
import TextAdventure.Proofs.Json.Format

/-!
# Laws of records

The format of a record type is lawful when those of its fields are (`Record.lawful`). An object that
was written has the fields that are not omitted, each once; reading it finds these, and the omitted
ones have their defaults. What any object or array is read as is made of values that were read and
of defaults.
-/

namespace TextAdventure.Json

namespace Record

open Format (array commas expect_self member object)

variable {α : Type} {R : Record α}

theorem field?_key (f : R.Field) : R.field? (R.key f) = some f := by
  have found : (R.fields.find? (R.key · = R.key f)).isSome = true :=
    List.find?_isSome.2 ⟨f, R.complete f, by simp⟩
  obtain ⟨g, hg⟩ := Option.isSome_iff_exists.1 found
  have same := List.find?_some hg
  rw [decide_eq_true_eq] at same
  rw [field?, hg, R.key_injective g f same]

/-! ## The values that have been read -/

namespace Partial

theorem blank_apply (f : R.Field) : (blank : R.Partial) f = none :=
  rfl

theorem set_self (p : R.Partial) (f : R.Field) (v : R.Value f) : p.set f v f = some v :=
  dif_pos rfl

theorem set_of_ne (p : R.Partial) {f g : R.Field} (v : R.Value f) (h : g ≠ f) :
    p.set f v g = p g :=
  dif_neg h

/-- The fields `fs` of `a` have been read, too. -/
def fill (p : R.Partial) (a : α) (fs : List R.Field) : R.Partial :=
  fs.foldl (fun p f => p.set f (R.get a f)) p

theorem fill_apply (p : R.Partial) (a : α) (fs : List R.Field) (f : R.Field) :
    p.fill a fs f = if f ∈ fs then some (R.get a f) else p f := by
  induction fs generalizing p with
  | nil => rfl
  | cons g fs ih =>
    change (p.set g (R.get a g)).fill a fs f = _
    rw [ih]
    by_cases hf : f ∈ fs
    · rw [if_pos hf, if_pos (List.mem_cons_of_mem g hf)]
    · rw [if_neg hf]
      by_cases hg : f = g
      · subst hg
        rw [set_self, if_pos List.mem_cons_self]
      · rw [set_of_ne _ _ hg, if_neg (by simp [hf, hg])]

/-- A record is made as soon as every field has a value, and only then. -/
theorem finish_eq_ok_iff {p : R.Partial} {a : α} :
    p.finish = .ok a ↔ ∃ v, (∀ f, p.value? f = some (v f)) ∧ R.make v = a := by
  unfold finish
  split
  · rename_i f missing
    have hf := List.find?_some missing
    simp only [reduceCtorEq, false_iff, not_exists, not_and]
    intro v hv
    rw [hv f] at hf
    cases hf
  · rename_i present
    rw [Except.ok.injEq]
    constructor
    · rintro rfl
      exact ⟨_, fun f => (Option.some_get _).symm, rfl⟩
    · rintro ⟨v, hv, rfl⟩
      congr 1
      funext f
      simp only [hv f, Option.get_some]

/-- All values that have been read are as `C` says. -/
def Within (p : R.Partial) (C : (f : R.Field) → R.Value f → Prop) : Prop :=
  ∀ f v, p f = some v → C f v

variable {C : (f : R.Field) → R.Value f → Prop}

theorem within_blank : (blank : R.Partial).Within C := by
  intro f v h
  cases h

theorem Within.set {p : R.Partial} (hp : p.Within C) {f : R.Field} {v : R.Value f} (hv : C f v) :
    (p.set f v).Within C := by
  intro g w hw
  by_cases hg : g = f
  · subst hg
    rw [set_self] at hw
    cases hw
    exact hv
  · rw [set_of_ne p v hg] at hw
    exact hp g w hw

theorem Within.value? {p : R.Partial} (hp : p.Within C)
    (hdefault : ∀ f v, R.default? f = some v → C f v) {f : R.Field} {v : R.Value f}
    (hv : p.value? f = some v) : C f v := by
  unfold Partial.value? at hv
  cases hf : p f with
  | none =>
    rw [hf] at hv
    exact hdefault f v hv
  | some w =>
    rw [hf] at hv
    cases hv
    exact hp f _ hf

end Partial

/-! ## Reading objects and arrays -/

/-- The fields that the members of an object give, in the order of the members. -/
def given (R : Record α) (members : List (String × List Token)) : List R.Field :=
  members.filterMap fun m => R.field? m.1

/-- The members of an object give fields of `a`, none of them twice, or are passed over. -/
structure Gives (R : Record α) (a : α) (members : List (String × List Token)) : Prop where
  read : ∀ m ∈ members, ∀ f, R.field? m.1 = some f →
    ∀ rest, (R.format f).read (m.2 ++ rest) = .ok (R.get a f, rest)
  skip : ∀ m ∈ members, R.field? m.1 = none → ∀ rest, skip? (m.2 ++ rest) = some rest
  distinct : (R.given members).Nodup

theorem given_cons_of_some {m : String × List Token} {f : R.Field} (h : R.field? m.1 = some f)
    (members : List (String × List Token)) : R.given (m :: members) = f :: R.given members :=
  List.filterMap_cons_some h

theorem given_cons_of_none {m : String × List Token} (h : R.field? m.1 = none)
    (members : List (String × List Token)) : R.given (m :: members) = R.given members :=
  List.filterMap_cons_none h

theorem Gives.tail {a : α} {m : String × List Token} {members : List (String × List Token)}
    (h : R.Gives a (m :: members)) : R.Gives a members where
  read n hn := h.read n (List.mem_cons_of_mem m hn)
  skip n hn := h.skip n (List.mem_cons_of_mem m hn)
  distinct := by
    have distinct := h.distinct
    cases hm : R.field? m.1 with
    | none => rwa [given_cons_of_none hm] at distinct
    | some f =>
      rw [given_cons_of_some hm, List.nodup_cons] at distinct
      exact distinct.2

/-- The members are read into fields none of which has been read. -/
theorem readMembers_commas {a : α} {members : List (String × List Token)}
    (h : R.Gives a members) {p : R.Partial} (unread : ∀ f ∈ R.given members, p f = none)
    {fuel : Nat} (hfuel : members.length < fuel) (first : Bool) (rest : List Token) :
    R.readMembers fuel first p (commas first (members.map member) ++ .closeBrace :: rest) =
      .ok (p.fill a (R.given members), .closeBrace :: rest) := by
  induction members generalizing p fuel first with
  | nil =>
    obtain ⟨fuel, rfl⟩ := Nat.exists_eq_add_one_of_ne_zero (Nat.ne_of_gt hfuel)
    rfl
  | cons m members ih =>
    obtain ⟨fuel, rfl⟩ := Nat.exists_eq_add_one_of_ne_zero (Nat.ne_of_gt (Nat.zero_lt_of_lt hfuel))
    have enough := Nat.lt_of_succ_lt_succ hfuel
    rw [List.map_cons, readMembers, Format.nextKey_commas, ok_bind]
    cases hm : R.field? m.1 with
    | none =>
      have skipped := h.skip m List.mem_cons_self hm
      rw [given_cons_of_none hm] at unread ⊢
      simp only [hm, expect_self, ok_bind, skipped, ih h.tail unread enough false]
    | some f =>
      have hread := h.read m List.mem_cons_self f hm
      have distinct := h.distinct
      rw [given_cons_of_some hm] at unread distinct ⊢
      -- Reading `f` leaves the later fields unread: none of them is `f`.
      have unread' : ∀ g ∈ R.given members, p.set f (R.get a f) g = none := by
        intro g hg
        rw [Partial.set_of_ne]
        · exact unread g (List.mem_cons_of_mem f hg)
        · rintro rfl
          exact (List.nodup_cons.1 distinct).1 hg
      simp only [hm, unread f List.mem_cons_self, Option.isSome_none, Bool.false_eq_true, if_false,
        expect_self, ok_bind, hread, ih h.tail unread' enough false]
      rfl

/-- The fields `present` are read from their parts; the others have defaults. -/
theorem readInOrder_commas {a : α} {present lacking : List R.Field} {parts : List (List Token)}
    (h : List.Forall₂ (fun f part => (R.format f).Reads (R.get a f) part) present parts)
    (hdefault : ∀ f ∈ lacking, (R.default? f).isSome = true) (index : Nat) (p : R.Partial)
    (rest : List Token) :
    R.readInOrder index (present ++ lacking) p
        (commas (index == 0) parts ++ .closeBracket :: rest) =
      .ok (p.fill a present, .closeBracket :: rest) := by
  induction h generalizing index p with
  | nil =>
    rw [List.nil_append]
    induction lacking generalizing index with
    | nil => rfl
    | cons f fs ih =>
      obtain ⟨hf, hfs⟩ := List.forall_mem_cons.1 hdefault
      have at_end : Format.nextElement (index == 0) (.closeBracket :: rest) =
          .ok (false, .closeBracket :: rest) := rfl
      simp only [readInOrder, commas, List.nil_append, at_end, ok_bind, Bool.false_eq_true, hf,
        if_false, if_true]
      exact ih hfs (index + 1)
  | @cons f part fs parts here _ ih =>
    have later := ih (index + 1) (p.set f (R.get a f))
    rw [show (index + 1 == 0) = false from rfl] at later
    rw [List.cons_append, readInOrder, Format.nextElement_commas here.begins, ok_bind]
    simp only [if_true, here.read, ok_bind, later]
    rfl

/-- The fields that have been read and the defaults of the others make up the record. -/
theorem finish_fill {a : α} {fs : List R.Field}
    (h : ∀ f, f ∉ fs → R.default? f = some (R.get a f)) :
    (Partial.fill .blank a fs).finish = .ok a := by
  refine Partial.finish_eq_ok_iff.2 ⟨R.get a, fun f => ?_, R.make_get a⟩
  rw [Partial.value?, Partial.fill_apply]
  by_cases hf : f ∈ fs
  · rw [if_pos hf]
    rfl
  · rw [if_neg hf, h f hf]
    rfl

theorem read_toFormat : R.toFormat.read = R.read :=
  rfl

/-- An object is read as the record whose fields its members give. -/
theorem reads_object {a : α} {members : List (String × List Token)} (h : R.Gives a members)
    (hdefault : ∀ f, f ∉ R.given members → R.default? f = some (R.get a f)) :
    R.toFormat.Reads a (object members) where
  read rest := by
    have enough := Format.length_le_commas_member members true
    rw [read_toFormat, Format.object_append, read,
      readMembers_commas h (fun f _ => Partial.blank_apply f)
        (by rw [List.length_append]; omega), ok_bind]
    simp only [finish_fill hdefault, ok_bind, expect_self]
  begins := Format.begins_object members

/-- An array of the first fields in their order is read as the record if the others have their
defaults. -/
theorem reads_array {a : α} {present lacking : List R.Field} {parts : List (List Token)}
    (hfields : R.fields = present ++ lacking)
    (h : List.Forall₂ (fun f part => (R.format f).Reads (R.get a f) part) present parts)
    (hdefault : ∀ f ∈ lacking, R.default? f = some (R.get a f)) :
    R.toFormat.Reads a (array parts) where
  read rest := by
    have whole : ∀ f, f ∉ present → R.default? f = some (R.get a f) := fun f hf => by
      have hmem := R.complete f
      rw [hfields, List.mem_append] at hmem
      exact hdefault f (hmem.resolve_left hf)
    have optional : ∀ f ∈ lacking, (R.default? f).isSome = true := fun f hf => by
      rw [hdefault f hf]
      rfl
    have elements := readInOrder_commas h optional 0 .blank rest
    rw [← hfields, show ((0 : Nat) == 0) = true from rfl] at elements
    rw [read_toFormat, Format.array_append, read, elements, ok_bind]
    simp only [finish_fill whole, ok_bind, expect_self]
  begins := Format.begins_array parts

/-! ## Reading what was written -/

/-- The fields that are written for `a`. -/
def written (R : Record α) (a : α) : List R.Field :=
  R.fields.filter fun f => !R.omits f (R.get a f)

theorem mem_written {a : α} {f : R.Field} :
    f ∈ R.written a ↔ R.omits f (R.get a f) = false := by
  simp [written, R.complete]

theorem nodup_written (a : α) : (R.written a).Nodup :=
  R.nodup.filter _

/-- The members that are written for `a`. -/
def members (R : Record α) (a : α) : List (String × List Token) :=
  (R.written a).map fun f => (R.key f, (R.format f).write (R.get a f))

theorem write_eq (a : α) : R.write a = object (R.members a) := by
  rw [members, object, List.map_map]
  rfl

theorem given_members (a : α) : R.given (R.members a) = R.written a := by
  have same (fs : List R.Field) :
      fs.filterMap (fun f => R.field? (R.key f)) = fs := by
    simp only [field?_key, List.filterMap_some]
  rw [given, members, List.filterMap_map]
  exact same (R.written a)

theorem gives_members {a : α}
    (hread : ∀ f rest, (R.format f).read ((R.format f).write (R.get a f) ++ rest) =
      .ok (R.get a f, rest)) : R.Gives a (R.members a) where
  read := List.forall_mem_map.2 fun f _ g hg => by
    rw [field?_key, Option.some.injEq] at hg
    exact hg ▸ hread f
  skip := List.forall_mem_map.2 fun f _ hf => by
    rw [field?_key] at hf
    cases hf
  distinct := by
    rw [given_members]
    exact nodup_written a

theorem read_write {a : α}
    (hread : ∀ f rest, (R.format f).read ((R.format f).write (R.get a f) ++ rest) =
      .ok (R.get a f, rest)) (rest : List Token) :
    R.read (R.write a ++ rest) = .ok (a, rest) := by
  rw [write_eq]
  refine (reads_object (gives_members hread) fun f hf => ?_).read rest
  rw [given_members, mem_written, Bool.not_eq_false] at hf
  exact R.default?_of_omits f _ hf

theorem legible_write {a : α}
    (h : ∀ f, Token.Legible ((R.format f).write (R.get a f))) : Token.Legible (R.write a) := by
  have members : ∀ p ∈ (R.written a).map (R.writeField a), Token.Legible p :=
    List.forall_mem_map.2 fun f _ => Format.legible_member (R.key f) (h f)
  exact Format.legible_enclosed members (t := .openBrace) (u := .closeBrace) trivial trivial

/-! ## What may have been read -/

section Within

variable {C : (f : R.Field) → R.Value f → Prop}
  (hread : ∀ {f ts v rest}, (R.format f).read ts = .ok (v, rest) → C f v)

include hread

theorem within_of_readMembers {fuel : Nat} {first : Bool} {p q : R.Partial}
    {ts rest : List Token} (hp : p.Within C)
    (h : R.readMembers fuel first p ts = .ok (q, rest)) : q.Within C := by
  induction fuel generalizing first p ts with
  | zero => cases h
  | succ fuel ih =>
    obtain ⟨⟨key?, ts₁⟩, -, h⟩ := bind_eq_ok_iff.1 h
    cases key? with
    | none =>
      cases h
      exact hp
    | some key =>
      simp only at h
      split at h
      · obtain ⟨ts₂, -, h⟩ := bind_eq_ok_iff.1 h
        split at h
        · cases h
        · exact ih hp h
      · split at h
        · cases h
        · obtain ⟨ts₂, -, h⟩ := bind_eq_ok_iff.1 h
          obtain ⟨⟨v, ts₃⟩, hv, h⟩ := bind_eq_ok_iff.1 h
          exact ih (hp.set (hread hv)) h

theorem within_of_readInOrder {index : Nat} {fs : List R.Field} {p q : R.Partial}
    {ts rest : List Token} (hp : p.Within C)
    (h : R.readInOrder index fs p ts = .ok (q, rest)) : q.Within C := by
  induction fs generalizing index p ts with
  | nil =>
    cases h
    exact hp
  | cons f fs ih =>
    obtain ⟨⟨more, ts₁⟩, -, h⟩ := bind_eq_ok_iff.1 h
    cases more with
    | true =>
      obtain ⟨⟨v, ts₂⟩, hv, h⟩ := bind_eq_ok_iff.1 h
      exact ih (hp.set (hread hv)) h
    | false =>
      simp only [Bool.false_eq_true, if_false] at h
      split at h
      · exact ih hp h
      · cases h

/-- A record is read from values that its fields may have, whether they stand in an object or in
an array. -/
theorem exists_make_of_read (hdefault : ∀ f v, R.default? f = some v → C f v)
    {ts rest : List Token} {a : α} (h : R.read ts = .ok (a, rest)) :
    ∃ v, (∀ f, C f (v f)) ∧ R.make v = a := by
  have made {q : R.Partial} (hq : q.Within C) (hfinish : q.finish = .ok a) :
      ∃ v, (∀ f, C f (v f)) ∧ R.make v = a := by
    obtain ⟨v, hv, hmake⟩ := Partial.finish_eq_ok_iff.1 hfinish
    exact ⟨v, fun f => hq.value? hdefault (hv f), hmake⟩
  unfold read at h
  split at h
  · obtain ⟨⟨q, ts₁⟩, hq, h⟩ := bind_eq_ok_iff.1 h
    obtain ⟨b, hfinish, h⟩ := bind_eq_ok_iff.1 h
    obtain ⟨ts₂, -, heq⟩ := bind_eq_ok_iff.1 h
    cases heq
    exact made (within_of_readMembers hread Partial.within_blank hq) hfinish
  · obtain ⟨⟨q, ts₁⟩, hq, h⟩ := bind_eq_ok_iff.1 h
    obtain ⟨b, hfinish, h⟩ := bind_eq_ok_iff.1 h
    obtain ⟨ts₂, -, heq⟩ := bind_eq_ok_iff.1 h
    cases heq
    exact made (within_of_readInOrder hread Partial.within_blank hq) hfinish
  · cases h

end Within

/-! ## The format -/

/-- The format of a record type is lawful for `D` when `D` holds of the records whose fields are as
their formats are lawful for, and of no others. -/
theorem lawful {C : (f : R.Field) → R.Value f → Prop} {D : α → Prop}
    (h : ∀ f, (R.format f).Lawful (C f)) (hdefault : ∀ f v, R.default? f = some v → C f v)
    (hget : ∀ a, D a → ∀ f, C f (R.get a f)) (hmake : ∀ v, (∀ f, C f (v f)) → D (R.make v)) :
    R.toFormat.Lawful D where
  read_write {a} ha rest := read_write (fun f => (h f).read_write (hget a ha f)) rest
  of_read {ts a rest} ha := by
    obtain ⟨v, hv, rfl⟩ := exists_make_of_read (fun {f} => (h f).of_read) hdefault ha
    exact hmake v hv
  legible a := legible_write fun f => (h f).legible (R.get a f)

theorem begins : R.toFormat.Begins :=
  fun _ => ⟨.openBrace, _, rfl, by simp [Token.Begins]⟩

end Record

end TextAdventure.Json
