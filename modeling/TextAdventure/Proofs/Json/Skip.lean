import TextAdventure.Json.Skip
import TextAdventure.Proofs.Json.Format

/-!
# What is passed over

`IsValue` is the grammar of JSON values, told in tokens: a scalar, an array or an object, nested as
deeply as one likes. All of it is passed over, and nothing that follows (`IsValue.skip?_append`).
-/

namespace TextAdventure.Json

open Format (array array_append commas separated separated_eq_commas)

/-- The tokens of one value, whatever it holds. -/
inductive IsValue : List Token → Prop
  | scalar {t : Token} (h : t.isScalar = true) : IsValue [t]
  | array {parts : List (List Token)} (h : ∀ part ∈ parts, IsValue part) :
    IsValue (array parts)
  | object {members : List (Token × List Token)} (hkey : ∀ m ∈ members, m.1.isString = true)
    (h : ∀ m ∈ members, IsValue m.2) :
    IsValue (.openBrace :: separated (members.map fun m => m.1 :: .colon :: m.2) ++ [.closeBrace])

theorem IsValue.exists_cons {ts : List Token} (h : IsValue ts) :
    ∃ t ts', ts = t :: ts' ∧ t ≠ .closeBracket := by
  cases h with
  | @scalar t h =>
    refine ⟨t, [], rfl, ?_⟩
    rintro rfl
    cases h
  | array | object => exact ⟨_, _, rfl, by simp⟩

/-! ## With brackets open -/

/-- What is done after a value inside the brackets of `stack`: with none open, nothing. -/
def resume (stack : List Bracket) (ts : List Token) : Option (List Token) :=
  if stack = [] then some ts else skipFrom .separator stack ts

theorem resume_cons (bracket : Bracket) (stack : List Bracket) (ts : List Token) :
    resume (bracket :: stack) ts = skipFrom .separator (bracket :: stack) ts :=
  if_neg (List.cons_ne_nil _ _)

/-- The tokens are passed over where a value is awaited, whatever is open and whatever follows. -/
def Passed (ts : List Token) : Prop :=
  ∀ stack rest, skipFrom .value stack (ts ++ rest) = resume stack rest

theorem passed_scalar {t : Token} (h : t.isScalar = true) : Passed [t] := by
  intro stack rest
  rw [List.singleton_append, skipFrom, if_pos h]
  rfl

/-- The first element of an array is passed over like the others. -/
theorem skipFrom_element {t : Token} (h : t ≠ .closeBracket) (bracket : Bracket)
    (stack : List Bracket) (ts : List Token) :
    skipFrom .element (bracket :: stack) (t :: ts) =
      skipFrom .value (bracket :: stack) (t :: ts) := by
  simp only [skipFrom, if_neg h, if_neg (List.cons_ne_nil bracket stack)]

/-- The remaining elements of an array, up to its end. -/
theorem skipFrom_elements {parts : List (List Token)} (h : ∀ part ∈ parts, Passed part)
    (stack : List Bracket) (rest : List Token) :
    skipFrom .separator (.array :: stack) (commas false parts ++ .closeBracket :: rest) =
      resume stack rest := by
  induction parts with
  | nil => rfl
  | cons part parts ih =>
    obtain ⟨here, later⟩ := List.forall_mem_cons.1 h
    have comma (ts : List Token) : skipFrom .separator (.array :: stack) (.comma :: ts) =
        skipFrom .value (.array :: stack) ts := rfl
    rw [commas, if_neg Bool.false_ne_true, List.cons_append, List.cons_append, comma,
      List.append_assoc, here, resume_cons, ih later]

theorem passed_array {parts : List (List Token)} (h : ∀ part ∈ parts, Passed part)
    (hbegins : ∀ part ∈ parts, ∃ t ts, part = t :: ts ∧ t ≠ .closeBracket) :
    Passed (array parts) := by
  intro stack rest
  have opened (ts : List Token) : skipFrom .value stack (.openBracket :: ts) =
      skipFrom .element (.array :: stack) ts := rfl
  rw [array_append, opened]
  cases parts with
  | nil => rfl
  | cons part parts =>
    obtain ⟨here, later⟩ := List.forall_mem_cons.1 h
    obtain ⟨t, ts, rfl, ht⟩ := hbegins part List.mem_cons_self
    rw [commas, if_pos rfl, List.append_assoc, List.cons_append, skipFrom_element ht,
      ← List.cons_append, here, resume_cons, skipFrom_elements later]

/-- A key with its colon is passed over. -/
theorem skipFrom_key {key : Token} (h : key.isString = true) (stack : List Bracket)
    (ts : List Token) :
    skipFrom .key stack (key :: .colon :: ts) = skipFrom .value stack ts := by
  rw [skipFrom, if_pos h, skipFrom, if_pos rfl]

/-- The first key of an object is passed over like the others. -/
theorem skipFrom_member {key : Token} (h : key.isString = true) (stack : List Bracket)
    (ts : List Token) : skipFrom .member stack (key :: ts) = skipFrom .key stack (key :: ts) := by
  have hne : key ≠ .closeBrace := by
    rintro rfl
    cases h
  rw [skipFrom, if_neg hne, skipFrom]

/-- The remaining members of an object, up to its end. -/
theorem skipFrom_members {members : List (Token × List Token)}
    (hkey : ∀ m ∈ members, m.1.isString = true) (h : ∀ m ∈ members, Passed m.2)
    (stack : List Bracket) (rest : List Token) :
    skipFrom .separator (.object :: stack)
        (commas false (members.map fun m => m.1 :: .colon :: m.2) ++ .closeBrace :: rest) =
      resume stack rest := by
  induction members with
  | nil => rfl
  | cons m members ih =>
    obtain ⟨key, keys⟩ := List.forall_mem_cons.1 hkey
    obtain ⟨here, later⟩ := List.forall_mem_cons.1 h
    have comma (ts : List Token) : skipFrom .separator (.object :: stack) (.comma :: ts) =
        skipFrom .key (.object :: stack) ts := rfl
    rw [List.map_cons, commas, if_neg Bool.false_ne_true]
    simp only [List.cons_append, List.append_assoc]
    rw [comma, skipFrom_key key, here, resume_cons, ih keys later]

theorem passed_object {members : List (Token × List Token)}
    (hkey : ∀ m ∈ members, m.1.isString = true) (h : ∀ m ∈ members, Passed m.2) :
    Passed (.openBrace :: separated (members.map fun m => m.1 :: .colon :: m.2) ++
      [.closeBrace]) := by
  intro stack rest
  have opened (ts : List Token) : skipFrom .value stack (.openBrace :: ts) =
      skipFrom .member (.object :: stack) ts := rfl
  rw [separated_eq_commas, List.cons_append, List.cons_append, opened, List.append_assoc,
    List.singleton_append]
  cases members with
  | nil => rfl
  | cons m members =>
    obtain ⟨key, keys⟩ := List.forall_mem_cons.1 hkey
    obtain ⟨here, later⟩ := List.forall_mem_cons.1 h
    rw [List.map_cons, commas, if_pos rfl]
    simp only [List.cons_append, List.append_assoc]
    rw [skipFrom_member key, skipFrom_key key, here, resume_cons, skipFrom_members keys later]

/-! ## Values -/

namespace IsValue

theorem passed {ts : List Token} (h : IsValue ts) : Passed ts := by
  induction h with
  | scalar h => exact passed_scalar h
  | array h ih => exact passed_array ih fun part hpart => (h part hpart).exists_cons
  | object hkey _ ih => exact passed_object hkey ih

/-- A value is passed over, and nothing that follows it. -/
theorem skip?_append {ts : List Token} (h : IsValue ts) (rest : List Token) :
    skip? (ts ++ rest) = some rest :=
  h.passed [] rest

theorem separate {ts : List Token} (h : IsValue ts) : Token.Separate ts := by
  induction h with
  | scalar => exact Token.separate_singleton _
  | array _ ih => exact Format.separate_array ih
  | @object members hkey _ ih =>
    refine Format.separate_enclosed (List.forall_mem_map.2 fun m hm => ?_) rfl rfl
    have key : m.1.isNumber = false := by
      have := hkey m hm
      cases hm₁ : m.1 <;> simp_all [Token.isString, Token.isNumber]
    exact ((ih m hm).cons rfl).cons key

end IsValue

end TextAdventure.Json
