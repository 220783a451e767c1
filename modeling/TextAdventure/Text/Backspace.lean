import TextAdventure.Text.Grapheme

/-!
# Backspaces

A backspace takes away the grapheme cluster in front of it. The size of a cluster, in octets, is
remembered in one octet, and as many octets are taken away as are remembered: of a cluster of 256
octets or more, a part is left. A part that would cut a character in two cannot be taken away.
-/

namespace TextAdventure.Text

/-- The text without its last `n` octets, both with the last character first; nothing if the cut
would go through a character. -/
def dropOctets? : (n : Nat) → List Char → Option (List Char)
  | 0, cs => some cs
  | _ + 1, [] => none
  | n + 1, c :: cs => if c.utf8Size ≤ n + 1 then dropOctets? (n + 1 - c.utf8Size) cs else none

/-- A line as far as it has been typed. -/
structure Typed where
  /-- The characters that are left, the last one first. -/
  text : List Char
  /-- The sizes of the clusters that no backspace has taken away, the last one first. -/
  sizes : List Nat
  /-- What is known of the characters of the last cluster; nothing if it has ended. -/
  before : Option Before

namespace Typed

def empty : Typed :=
  ⟨[], [], none⟩

/-- Takes away the last cluster, if there is one, as far as its size is remembered. -/
def erase? (t : Typed) : Option Typed :=
  match t.sizes with
  | [] => some { t with before := none }
  | size :: sizes => (dropOctets? (size % 256) t.text).map fun text => ⟨text, sizes, none⟩

/-- Adds a character to the last cluster, or as a new one if a boundary lies between. -/
def add (t : Typed) (c : Char) : Typed :=
  let b := Break.ofChar c
  let alone : Typed := ⟨c :: t.text, c.utf8Size :: t.sizes, some (.first b)⟩
  match t.sizes, t.before with
  | size :: sizes, some before =>
    if before.joins b then ⟨c :: t.text, (size + c.utf8Size) :: sizes, some (before.next b)⟩
    else alone
  | _, _ => alone

/-- Types a character, which may be a backspace. -/
def step? (t : Typed) (c : Char) : Option Typed :=
  if c = '\x08' then t.erase? else some (t.add c)

end Typed

/-- The line that is left when every backspace has taken away what stands before it. -/
def eraseBackspaces? (cs : List Char) : Option (List Char) :=
  if '\x08' ∈ cs then (cs.foldlM Typed.step? Typed.empty).map fun t => t.text.reverse else some cs

theorem eraseBackspaces?_of_not_mem {cs : List Char} (h : '\x08' ∉ cs) :
    eraseBackspaces? cs = some cs :=
  if_neg h

end TextAdventure.Text
