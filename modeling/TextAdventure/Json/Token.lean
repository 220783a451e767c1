import TextAdventure.Json.Numeral
import TextAdventure.Text.Hex

/-!
# Tokens

A JSON text is read as a list of tokens. Where the text stops being one, the list ends with
`invalid`; what stands in front of that place keeps its meaning. `Token.text` writes a token and
`Token.scan` reads all tokens of a text.
-/

namespace TextAdventure.Json

inductive Token
  | openBrace | closeBrace | openBracket | closeBracket | comma | colon
  | null
  | bool (b : Bool)
  | number (n : Numeral)
  | string (s : String)
  /-- A string with half of a surrogate pair: no text, but well formed. -/
  | brokenString
  /-- No token starts here. -/
  | invalid
  deriving DecidableEq, Repr

/-! ## Strings -/

/-- One place of a string: a character, or a 16-bit unit given by its number. -/
inductive Piece
  | char (c : Char)
  | unit (n : Nat)
  deriving DecidableEq, Repr

namespace Piece

def isHigh (n : Nat) : Bool :=
  0xD800 ≤ n && n < 0xDC00

def isLow (n : Nat) : Bool :=
  0xDC00 ≤ n && n < 0xE000

/-- The characters of a string; nothing if half of a surrogate pair stands alone. -/
def join? : List Piece → Option (List Char)
  | [] => some []
  | .char c :: rest => (join? rest).map (c :: ·)
  | .unit n :: rest =>
    if isHigh n then
      match rest with
      | .unit m :: rest =>
        if isLow m then
          (join? rest).map (Char.ofNat (0x10000 + (n - 0xD800) * 0x400 + (m - 0xDC00)) :: ·)
        else none
      | _ => none
    else if isLow n then none
    else (join? rest).map (Char.ofNat n :: ·)

end Piece

/-- The character that a letter after a backslash stands for. -/
def unescape? (c : Char) : Option Char :=
  if c = '"' then some '"'
  else if c = '\\' then some '\\'
  else if c = '/' then some '/'
  else if c = 'b' then some '\x08'
  else if c = 'f' then some '\x0c'
  else if c = 'n' then some '\n'
  else if c = 'r' then some '\r'
  else if c = 't' then some '\t'
  else none

/-- The places of a string whose opening quotation mark has been read, and what follows it. -/
def scanPieces? : List Char → Option (List Piece × List Char)
  | [] => none
  | '"' :: rest => some ([], rest)
  | '\\' :: 'u' :: a :: b :: c :: d :: rest => do
    let n ← Text.hexNumber? [a, b, c, d]
    let (pieces, rest) ← scanPieces? rest
    some (.unit n :: pieces, rest)
  | '\\' :: e :: rest => do
    let c ← unescape? e
    let (pieces, rest) ← scanPieces? rest
    some (.char c :: pieces, rest)
  | c :: rest =>
    if c.toNat < 0x20 then none
    else do
      let (pieces, rest) ← scanPieces? rest
      some (.char c :: pieces, rest)

theorem length_of_scanPieces? {cs rest : List Char} {pieces : List Piece}
    (h : scanPieces? cs = some (pieces, rest)) : rest.length < cs.length := by
  fun_induction scanPieces? cs generalizing pieces rest with
  | case1 => cases h
  | case2 => cases h; exact Nat.lt_succ_self _
  | case3 a b c d cs ih =>
    simp only [Option.bind_eq_bind, Option.bind_eq_some_iff] at h
    obtain ⟨_, _, ⟨pieces', rest'⟩, h, heq⟩ := h
    cases heq
    have := ih h
    simp only [List.length_cons]
    omega
  | case4 e cs _ ih =>
    simp only [Option.bind_eq_bind, Option.bind_eq_some_iff] at h
    obtain ⟨_, _, ⟨pieces', rest'⟩, h, heq⟩ := h
    cases heq
    have := ih h
    simp only [List.length_cons]
    omega
  | case5 => cases h
  | case6 c cs _ _ _ _ ih =>
    simp only [Option.bind_eq_bind, Option.bind_eq_some_iff] at h
    obtain ⟨⟨pieces', rest'⟩, h, heq⟩ := h
    cases heq
    have := ih h
    simp only [List.length_cons]
    omega

/-- A character between the quotation marks of a string. -/
def escapeChar (c : Char) : List Char :=
  if c = '"' then ['\\', '"']
  else if c = '\\' then ['\\', '\\']
  else if c = '\x08' then ['\\', 'b']
  else if c = '\x0c' then ['\\', 'f']
  else if c = '\n' then ['\\', 'n']
  else if c = '\r' then ['\\', 'r']
  else if c = '\t' then ['\\', 't']
  else if c.toNat < 0x20 then
    ['\\', 'u', '0', '0', (c.toNat / 16).digitChar, (c.toNat % 16).digitChar]
  else [c]

/-! ## Tokens -/

namespace Token

/-- The characters of a token. -/
def text : Token → List Char
  | openBrace => ['\x7b']
  | closeBrace => ['\x7d']
  | openBracket => ['[']
  | closeBracket => [']']
  | comma => [',']
  | colon => [':']
  | null => ['n', 'u', 'l', 'l']
  | bool true => ['t', 'r', 'u', 'e']
  | bool false => ['f', 'a', 'l', 's', 'e']
  | number n => n.text
  | string s => '"' :: s.toList.flatMap escapeChar ++ ['"']
  | brokenString => []
  | invalid => []

/-- The characters that may stand between tokens. -/
def isGap (c : Char) : Bool :=
  c = ' ' || c = '\n' || c = '\t' || c = '\r'

/-- The token in front, and what follows it. -/
def scanOne? : List Char → Option (Token × List Char)
  | '\x7b' :: rest => some (openBrace, rest)
  | '\x7d' :: rest => some (closeBrace, rest)
  | '[' :: rest => some (openBracket, rest)
  | ']' :: rest => some (closeBracket, rest)
  | ',' :: rest => some (comma, rest)
  | ':' :: rest => some (colon, rest)
  | 'n' :: 'u' :: 'l' :: 'l' :: rest => some (null, rest)
  | 't' :: 'r' :: 'u' :: 'e' :: rest => some (bool true, rest)
  | 'f' :: 'a' :: 'l' :: 's' :: 'e' :: rest => some (bool false, rest)
  | '"' :: rest => (scanPieces? rest).map fun (pieces, rest) =>
    (((Piece.join? pieces).map fun cs => string (String.ofList cs)).getD brokenString, rest)
  | cs => (Numeral.scan? cs).map fun (n, rest) => (number n, rest)

theorem length_of_scanOne? {cs rest : List Char} {t : Token}
    (h : scanOne? cs = some (t, rest)) : rest.length < cs.length := by
  unfold scanOne? at h
  split at h
  case h_10 =>
    obtain ⟨p, hp, heq⟩ := Option.map_eq_some_iff.1 h
    cases heq
    exact Nat.lt_succ_of_lt (length_of_scanPieces? hp)
  case h_11 =>
    obtain ⟨p, hp, heq⟩ := Option.map_eq_some_iff.1 h
    cases heq
    exact Numeral.length_of_scan? hp
  all_goals
    cases h
    simp only [List.length_cons]
    omega

/-- The tokens of a text. -/
def scan : List Char → List Token
  | [] => []
  | c :: cs =>
    if isGap c then scan cs
    else
      match h : scanOne? (c :: cs) with
      | none => [invalid]
      | some (t, rest) =>
        have : rest.length ≤ cs.length := Nat.le_of_lt_succ (length_of_scanOne? h)
        t :: scan rest
termination_by cs => cs.length

@[simp] theorem scan_nil : scan [] = [] := by
  rw [scan]

theorem scan_cons_of_gap {c : Char} (h : isGap c = true) (cs : List Char) :
    scan (c :: cs) = scan cs := by
  rw [scan, if_pos h]

theorem scan_of_scanOne? {c : Char} {cs rest : List Char} {t : Token} (h : isGap c = false)
    (ht : scanOne? (c :: cs) = some (t, rest)) : scan (c :: cs) = t :: scan rest := by
  rw [scan, if_neg (by simp [h])]
  split
  · rename_i h'
    rw [ht] at h'
    cases h'
  · rename_i h'
    rw [ht] at h'
    cases h'
    rfl

theorem scan_of_scanOne?_eq_none {c : Char} {cs : List Char} (h : isGap c = false)
    (ht : scanOne? (c :: cs) = none) : scan (c :: cs) = [invalid] := by
  rw [scan, if_neg (by simp [h])]
  split
  · rfl
  · rename_i h'
    rw [ht] at h'
    cases h'

end Token

/-- The tokens written one after the other. -/
def render (ts : List Token) : String :=
  String.ofList (ts.flatMap Token.text)

end TextAdventure.Json
