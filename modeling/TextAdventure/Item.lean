import TextAdventure.Effect

/-!
# Items

Items lie in rooms or are carried. A list of items finds and gives up the first item of a name and
takes new items at its end.
-/

namespace TextAdventure

/-- A thing that can be carried. Names need not be unique. -/
structure Item where
  name : String
  description : String
  /-- Nothing at all differs from a mapping without entries: using such an item says so once. -/
  effects : Option UseEffects
  deriving DecidableEq, Repr

namespace Item

/-- An item without use-effects. -/
def plain (name description : String) : Item :=
  ⟨name, description, none⟩

/-- The item with one more effect, and with a mapping if it had none. -/
def withEffect (item : Item) (key : String) (effect : UseEffect) : Item :=
  let effects := item.effects.getD UseEffects.empty
  { item with effects := some (effects.insert key effect) }

end Item

/-! ## Lists of items -/

/-- Items in order. -/
structure ItemList where
  toList : List Item
  deriving DecidableEq, Repr

namespace ItemList

def empty : ItemList :=
  ⟨[]⟩

instance : Inhabited ItemList := ⟨empty⟩

/-- The first item with this name. -/
def find? (l : ItemList) (name : String) : Option Item :=
  l.toList.find? (·.name = name)

def contains (l : ItemList) (name : String) : Bool :=
  (l.find? name).isSome

/-- The first item that satisfies `p`, and the list without it. -/
def takeWhere? (l : ItemList) (p : Item → Bool) : Option (Item × ItemList) :=
  (l.toList.find? p).map fun item => (item, ⟨l.toList.eraseP p⟩)

/-- The first item with this name, and the list without it. -/
def take? (l : ItemList) (name : String) : Option (Item × ItemList) :=
  l.takeWhere? (·.name = name)

/-- The list with `item` at its end. -/
def push (l : ItemList) (item : Item) : ItemList :=
  ⟨l.toList ++ [item]⟩

def size (l : ItemList) : Nat :=
  l.toList.length

def isEmpty (l : ItemList) : Bool :=
  l.toList.isEmpty

def names (l : ItemList) : List String :=
  l.toList.map Item.name

@[simp] theorem toList_push (l : ItemList) (item : Item) :
    (l.push item).toList = l.toList ++ [item] :=
  rfl

theorem take?_eq_none_iff (l : ItemList) (name : String) :
    l.take? name = none ↔ l.contains name = false := by
  simp [take?, takeWhere?, contains, find?]

end ItemList

end TextAdventure
