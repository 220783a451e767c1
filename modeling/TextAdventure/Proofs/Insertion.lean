import Mathlib.Data.Finset.Card
import TextAdventure.Proofs.Presentation

/-!
# Effects in the order of insertion

Effects may be given one after the other, some of them under the same key. A mapping made of them
has each key once, at the place where the key was first given, with the effect that was given last
(`UseEffects.Collects`). This does not depend on how they are given: to an empty mapping, in the
text of an object, or to an item (`UseEffects.collects_however_given`). The text of a mapping shows
its entries in its order (`UseEffects.print_eq`).
-/

namespace TextAdventure

open Json (Format Presentation Token)

/-! ## Places in a list that gets longer -/

section Places

variable {α : Type} [BEq α] [LawfulBEq α] {l : List α}

theorem pairwise_idxOf_concat {as : List α} (hmem : ∀ a ∈ as, a ∈ l)
    (h : as.Pairwise fun a b => l.idxOf a < l.idxOf b) (new : α) :
    as.Pairwise fun a b => (l ++ [new]).idxOf a < (l ++ [new]).idxOf b := by
  refine h.imp_of_mem fun ha hb hlt => ?_
  rwa [List.idxOf_append_of_mem (hmem _ ha), List.idxOf_append_of_mem (hmem _ hb)]

theorem idxOf_lt_idxOf_concat {a new : α} (ha : a ∈ l) (hnew : new ∉ l) :
    (l ++ [new]).idxOf a < (l ++ [new]).idxOf new := by
  rw [List.idxOf_append_of_mem ha, List.idxOf_append_of_notMem hnew, List.idxOf_cons_self,
    Nat.add_zero]
  exact List.idxOf_lt_length_of_mem ha

end Places

variable {given : List (String × UseEffect)}

namespace UseEffects

/-! ## The mapping that is made -/

/-- The mapping is made of the effects given: each key stands where it was first given, with the
effect it was given last. -/
structure Collects (es : UseEffects) (given : List (String × UseEffect)) : Prop where
  distinct : es.keys.Nodup
  mem_keys : ∀ key, key ∈ es.keys ↔ key ∈ given.map Prod.fst
  first : es.keys.Pairwise fun key key' =>
    (given.map Prod.fst).idxOf key < (given.map Prod.fst).idxOf key'
  last : ∀ key effect, (key, effect) ∈ es.entries ↔ LastGiven given key effect
  get : ∀ key effect, es.get? key = some effect ↔ LastGiven given key effect
  get_none : ∀ key, es.get? key = none ↔ key ∉ given.map Prod.fst
  size : es.size = (given.map Prod.fst).toFinset.card

theorem ofList_concat (given : List (String × UseEffect)) (entry : String × UseEffect) :
    ofList (given ++ [entry]) = (ofList given).insert entry.1 entry.2 :=
  List.foldl_concat ..

theorem get?_eq_some_iff {es : UseEffects} {key : String} {effect : UseEffect} :
    es.get? key = some effect ↔ (key, effect) ∈ es.entries :=
  lookup_eq_some_iff_mem es.nodup

theorem get?_eq_none_iff {es : UseEffects} {key : String} :
    es.get? key = none ↔ key ∉ es.keys :=
  lookup_eq_none_iff_notMem

/-- Under each key the last effect that was given under it is found. -/
theorem get?_ofList (given : List (String × UseEffect)) (key : String) :
    (ofList given).get? key = given.reverse.lookup key :=
  get?_foldl_insert (fun _ => rfl) (fun es key effect k => get?_insert es key k effect) given key

theorem mem_keys_ofList {key : String} :
    key ∈ (ofList given).keys ↔ key ∈ given.map Prod.fst := by
  rw [← not_iff_not, ← get?_eq_none_iff, get?_ofList]
  exact lookup_reverse_eq_none_iff

theorem get?_ofList_iff {key : String} {effect : UseEffect} :
    (ofList given).get? key = some effect ↔ LastGiven given key effect := by
  rw [get?_ofList]
  exact lookup_reverse_eq_some_iff

/-- A key that is already there keeps its place, and a new one comes after all that are there. -/
theorem pairwise_keys_ofList (given : List (String × UseEffect)) :
    (ofList given).keys.Pairwise fun key key' =>
      (given.map Prod.fst).idxOf key < (given.map Prod.fst).idxOf key' := by
  induction given using List.reverseRecOn with
  | nil => exact .nil
  | append_singleton given entry ih =>
    have old := pairwise_idxOf_concat (fun _ => mem_keys_ofList.1) ih entry.1
    rw [ofList_concat, keys_insert, List.map_append]
    split
    · exact old
    · rename_i hnew
      refine List.pairwise_append.2 ⟨old, List.pairwise_singleton _ _, ?_⟩
      intro key hkey key' hkey'
      cases List.mem_singleton.1 hkey'
      exact idxOf_lt_idxOf_concat (mem_keys_ofList.1 hkey) fun h => hnew (mem_keys_ofList.2 h)

theorem size_ofList (given : List (String × UseEffect)) :
    (ofList given).size = (given.map Prod.fst).toFinset.card := by
  have same : (ofList given).keys.toFinset = (given.map Prod.fst).toFinset := by
    ext key
    rw [List.mem_toFinset, List.mem_toFinset, mem_keys_ofList]
  calc (ofList given).size
      = (ofList given).keys.length := (List.length_map Prod.fst).symm
    _ = (ofList given).keys.toFinset.card := (List.toFinset_card_of_nodup (ofList given).nodup).symm
    _ = (given.map Prod.fst).toFinset.card := congrArg Finset.card same

theorem collects_ofList (given : List (String × UseEffect)) : (ofList given).Collects given where
  distinct := (ofList given).nodup
  mem_keys _ := mem_keys_ofList
  first := pairwise_keys_ofList given
  last _ _ := get?_eq_some_iff.symm.trans get?_ofList_iff
  get _ _ := get?_ofList_iff
  get_none _ := get?_eq_none_iff.trans (not_congr mem_keys_ofList)
  size := size_ofList given

theorem print_eq (es : UseEffects) :
    format.print es =
      "\x7b" ++ ",".intercalate (es.entries.map fun entry =>
        Format.string.print entry.1 ++ ":" ++ UseEffect.format.print entry.2) ++ "\x7d" :=
  Format.print_entries UseEffect.format "a map of use-effects" es.entries

/-- The text is an object with the entries as its members, in their order. -/
def ListedIn (given : List (String × UseEffect)) (text : String) : Prop :=
  ∃ ts, Presentation.entries UseEffect.shown given ts ∧ Token.Layout ts text.toList

theorem parse_of_listedIn (hproper : ∀ entry ∈ given, entry.2.Proper) {text : String}
    (h : ListedIn given text) : format.parse text = .ok (ofList given) := by
  obtain ⟨ts, hshown, hlayout⟩ := h
  have takes := UseEffect.accepts_format.entries "a map of use-effects" given hproper ts hshown
  exact takes.map.parse_eq hlayout

end UseEffects

/-! ## However they are given -/

/-- An item with effects gets them just as its mapping does. -/
theorem Item.foldl_withEffect (given : List (String × UseEffect)) (name description : String)
    (es : UseEffects) :
    given.foldl (fun item entry => Item.withEffect item entry.1 entry.2)
        ⟨name, description, some es⟩ =
      ⟨name, description, some (given.foldl (fun es entry => es.insert entry.1 entry.2) es)⟩ := by
  induction given generalizing es with
  | nil => rfl
  | cons entry given ih => exact ih (es.insert entry.1 entry.2)

theorem Item.foldl_withEffect_plain (hne : given ≠ []) (name description : String) :
    given.foldl (fun item entry => Item.withEffect item entry.1 entry.2)
        (Item.plain name description) =
      ⟨name, description, some (.ofList given)⟩ := by
  obtain ⟨entry, given, rfl⟩ := List.exists_cons_of_ne_nil hne
  exact foldl_withEffect given name description (UseEffects.empty.insert entry.1 entry.2)

/-- Whether effects are inserted into an empty mapping, read from the text of an object or given to
an item, the same mapping is made of them, and it is written in its order. -/
theorem UseEffects.collects_however_given (given : List (String × UseEffect)) :
    let es := given.foldl (fun es entry => es.insert entry.1 entry.2) empty
    es.Collects given ∧
    format.print es =
      "\x7b" ++ ",".intercalate (es.entries.map fun entry =>
        Format.string.print entry.1 ++ ":" ++ UseEffect.format.print entry.2) ++ "\x7d" ∧
    ((∀ entry ∈ given, entry.2.Proper) →
      ∀ text, ListedIn given text → format.parse text = .ok es) ∧
    (given ≠ [] → ∀ name description,
      given.foldl (fun item entry => Item.withEffect item entry.1 entry.2)
          (Item.plain name description) =
        ⟨name, description, some es⟩) :=
  ⟨collects_ofList given, print_eq _, fun hproper _ h => parse_of_listedIn hproper h,
    Item.foldl_withEffect_plain⟩

/-- A box that is given once more after a bag: it stays in front of the bag, and the first way to
open it is forgotten. In the text each token is on a line of its own. -/
theorem UseEffects.box_given_twice :
    let pry : UseEffect := ⟨some { val := 1 }, "box", .opens, "first"⟩
    let bag : UseEffect := ⟨none, "bag", .opens, "second"⟩
    let smash : UseEffect := ⟨some { val := 2 }, "box", .opens, "third"⟩
    let given := [("a", pry), ("b", bag), ("a", smash)]
    let members := given.map fun entry => (entry.1, UseEffect.format.write entry.2)
    let object := Json.Format.object members
    let text := String.ofList (object.flatMap fun t => '\n' :: t.text)
    let es : UseEffects := ⟨[("a", smash), ("b", bag)], by decide⟩
    (∀ entry ∈ given, entry.2.Proper) ∧ ListedIn given text ∧ given ≠ [] ∧
      format.parse text = .ok es ∧
      given.foldl (fun item entry => Item.withEffect item entry.1 entry.2)
          (Item.plain "crowbar" "Bent.") = ⟨"crowbar", "Bent.", some es⟩ := by
  intro pry bag smash given members object text es
  have proper : ∀ entry ∈ given, entry.2.Proper := by decide
  have listed : ListedIn given text := by
    have line : Token.Gap ['\n'] := by simp [Token.Gap]
    obtain ⟨hshown, hspelled⟩ := (UseEffect.shows_format.entries "a map of use-effects") given
    refine ⟨object, hshown, ?_⟩
    rw [String.toList_ofList]
    exact Token.layout_flatMap line hspelled
  have hne : given ≠ [] := List.cons_ne_nil _ _
  obtain ⟨-, -, read, built⟩ := collects_however_given given
  exact ⟨proper, listed, hne, read proper text listed, built hne "crowbar" "Bent."⟩

end TextAdventure
