import TextAdventure.Text.Property

/-!
# Quoted texts

The form in which a message shows a text: between quotation marks, with backslashes in front of
quotation marks and backslashes, and with every character that would not show for itself spelled
out by its number.
-/

namespace TextAdventure.Text

/-- Would not show for itself: not printable, not shown at all, or a mark on the character before.
The two halfwidth voicing marks show for themselves, though they extend what stands before them. -/
def isHidden (c : Char) : Bool :=
  Property.unprintable.holds c || Property.ignorable.holds c
    || (Property.graphemeExtend.holds c && c != '\uff9e' && c != '\uff9f')

/-- One character between quotation marks. -/
def quotedChar (c : Char) : List Char :=
  if c = '\x00' then ['\\', '0']
  else if c = '\t' then ['\\', 't']
  else if c = '\r' then ['\\', 'r']
  else if c = '\n' then ['\\', 'n']
  else if c = '\\' then ['\\', '\\']
  else if c = '"' then ['\\', '"']
  else if isHidden c then ['\\', 'u', '\x7b'] ++ Nat.toDigits 16 c.toNat ++ ['\x7d']
  else [c]

/-- The text between quotation marks. -/
def quoted (s : String) : String :=
  String.ofList ('"' :: s.toList.flatMap quotedChar ++ ['"'])

end TextAdventure.Text
