import TextAdventure.Json.Token

/-!
# Passing over a value

A value that nothing asks for is passed over. Its brackets are counted on a stack, so the depth of
its nesting does not matter, and only the order of its tokens is looked at: half a surrogate pair or
a number of any size is no fault here.
-/

namespace TextAdventure.Json

/-- What may come next inside a value that is passed over. -/
inductive Awaited
  /-- A value. -/
  | value
  /-- The first element of an array, or its end. -/
  | element
  /-- The first key of an object, or its end. -/
  | member
  /-- A key. -/
  | key
  /-- The colon after a key. -/
  | colon
  /-- What follows a value inside a bracket: a comma or the end. -/
  | separator
  deriving DecidableEq, Repr

/-- The two kinds of brackets. -/
inductive Bracket
  | array | object
  deriving DecidableEq, Repr

/-- A string of either kind. -/
def Token.isString : Token → Bool
  | string _ | brokenString => true
  | _ => false

/-- A value of one token. -/
def Token.isScalar : Token → Bool
  | null | bool _ | number _ => true
  | t => t.isString

/-- The innermost open bracket ends at `t`. -/
def Token.closes : Token → Bracket → Bool
  | closeBracket, .array => true
  | closeBrace, .object => true
  | _, _ => false

/-- The tokens after the value that is open in `stack`, innermost bracket first. -/
def skipFrom : Awaited → List Bracket → List Token → Option (List Token)
  | _, _, [] => none
  | .value, stack, t :: ts =>
    if t.isScalar then
      if stack = [] then some ts else skipFrom .separator stack ts
    else if t = .openBracket then skipFrom .element (.array :: stack) ts
    else if t = .openBrace then skipFrom .member (.object :: stack) ts
    else none
  | .element, stack, t :: ts =>
    if t = .closeBracket then
      if stack.tail = [] then some ts else skipFrom .separator stack.tail ts
    else if t.isScalar then skipFrom .separator stack ts
    else if t = .openBracket then skipFrom .element (.array :: stack) ts
    else if t = .openBrace then skipFrom .member (.object :: stack) ts
    else none
  | .member, stack, t :: ts =>
    if t = .closeBrace then
      if stack.tail = [] then some ts else skipFrom .separator stack.tail ts
    else if t.isString then skipFrom .colon stack ts
    else none
  | .key, stack, t :: ts => if t.isString then skipFrom .colon stack ts else none
  | .colon, stack, t :: ts => if t = .colon then skipFrom .value stack ts else none
  | .separator, [], _ :: _ => none
  | .separator, bracket :: stack, t :: ts =>
    if t.closes bracket then
      if stack = [] then some ts else skipFrom .separator stack ts
    else if t = .comma then
      match bracket with
      | .array => skipFrom .value (bracket :: stack) ts
      | .object => skipFrom .key (bracket :: stack) ts
    else none

/-- The tokens after the value in front. -/
def skip? (ts : List Token) : Option (List Token) :=
  skipFrom .value [] ts

end TextAdventure.Json
