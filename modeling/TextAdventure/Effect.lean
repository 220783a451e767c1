import TextAdventure.RoomId

/-!
# Use-effects

What using an item may do to the room it is used in. An item's effects are kept under distinct
keys in the order in which the keys were first written: writing a key again replaces its effect
where it stands (`UseEffects.keys_insert`, `UseEffects.get?_insert`).
-/

namespace TextAdventure

/-- What an effect does when it fires. -/
inductive EffectAction
  /-- Removes the item named by the target from the room. -/
  | opens
  /-- Clears the lock of the path in the direction named by the target. -/
  | unlocks
  /-- An action this game does not know: it does nothing. -/
  | other (tag : String)
  deriving DecidableEq, Repr

namespace EffectAction

/-- The word for the action in a world description. -/
def tag : EffectAction → String
  | opens => "open"
  | unlocks => "unlock"
  | other tag => tag

def ofTag (tag : String) : EffectAction :=
  if tag = "open" then opens else if tag = "unlock" then unlocks else other tag

end EffectAction

/-- One effect of an item. -/
structure UseEffect where
  /-- The room in which the effect may fire; without one it never fires. -/
  room : Option RoomId
  target : String
  action : EffectAction
  message : String
  deriving DecidableEq, Repr

/-- May fire while the player stands in room `id`. -/
def UseEffect.firesIn (e : UseEffect) (id : RoomId) : Bool :=
  e.room = some id

/-! ## The effects of an item -/

/-- Effects under distinct keys, in the order of the keys' first writing. -/
structure UseEffects where
  entries : List (String × UseEffect)
  nodup : (entries.map Prod.fst).Nodup
  deriving DecidableEq, Repr

namespace UseEffects

/-- Puts `effect` at the place of `key`, or at the end when `key` has no place. -/
def put (key : String) (effect : UseEffect) :
    List (String × UseEffect) → List (String × UseEffect)
  | [] => [(key, effect)]
  | entry :: rest =>
    if entry.1 = key then (key, effect) :: rest else entry :: put key effect rest

theorem keys_put (key : String) (effect : UseEffect) (entries : List (String × UseEffect)) :
    (put key effect entries).map Prod.fst =
      if key ∈ entries.map Prod.fst then entries.map Prod.fst
      else entries.map Prod.fst ++ [key] := by
  induction entries with
  | nil => rfl
  | cons entry rest ih =>
    by_cases h : entry.1 = key
    · simp [put, h]
    · have h' : ¬key = entry.1 := fun e => h e.symm
      by_cases hm : key ∈ rest.map Prod.fst <;> simp_all [put]

theorem nodup_put (key : String) (effect : UseEffect) {entries : List (String × UseEffect)}
    (h : (entries.map Prod.fst).Nodup) : ((put key effect entries).map Prod.fst).Nodup := by
  rw [keys_put]
  split
  · exact h
  · rename_i hk
    rw [List.nodup_append]
    exact ⟨h, List.nodup_cons.2 ⟨List.not_mem_nil, List.nodup_nil⟩, by
      intro a ha b hb heq
      rw [List.mem_singleton] at hb
      exact hk (hb ▸ heq ▸ ha)⟩

def empty : UseEffects :=
  ⟨[], List.nodup_nil⟩

instance : Inhabited UseEffects := ⟨empty⟩

/-- A key already present keeps its place and takes the new effect. -/
def insert (es : UseEffects) (key : String) (effect : UseEffect) : UseEffects :=
  ⟨put key effect es.entries, nodup_put key effect es.nodup⟩

/-- The effects written one after the other. -/
def ofList (entries : List (String × UseEffect)) : UseEffects :=
  entries.foldl (fun es entry => es.insert entry.1 entry.2) empty

def get? (es : UseEffects) (key : String) : Option UseEffect :=
  es.entries.lookup key

def keys (es : UseEffects) : List String :=
  es.entries.map Prod.fst

def size (es : UseEffects) : Nat :=
  es.entries.length

def isEmpty (es : UseEffects) : Bool :=
  es.entries.isEmpty

theorem keys_insert (es : UseEffects) (key : String) (effect : UseEffect) :
    (es.insert key effect).keys = if key ∈ es.keys then es.keys else es.keys ++ [key] :=
  keys_put key effect es.entries

theorem lookup_put (key k : String) (effect : UseEffect) (entries : List (String × UseEffect)) :
    (put key effect entries).lookup k =
      if k = key then some effect else entries.lookup k := by
  induction entries with
  | nil => grind [put]
  | cons entry rest ih => grind [put]

theorem get?_insert (es : UseEffects) (key k : String) (effect : UseEffect) :
    (es.insert key effect).get? k = if k = key then some effect else es.get? k :=
  lookup_put key k effect es.entries

end UseEffects

end TextAdventure
