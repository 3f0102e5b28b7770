import Fieldwise.Text.Hex

/-!
# JSON documents

`Json` holds the documents that the library writes, and `Json.pretty` is their text: one member or
element a line, indented by two blanks a level.
-/

namespace Fieldwise

/-- A JSON document. -/
inductive Json where
  | number (n : Nat)
  | string (s : String)
  | array (elements : List Json)
  | object (members : List (String × Json))
  deriving Inhabited

namespace Json

/-- A character of a string: quotes, backslashes and control characters are escaped. -/
def escapeChar (c : Char) : List Char :=
  if c = '"' then ['\\', '"']
  else if c = '\\' then ['\\', '\\']
  else if c = '\x08' then ['\\', 'b']
  else if c = '\x0c' then ['\\', 'f']
  else if c = '\n' then ['\\', 'n']
  else if c = '\r' then ['\\', 'r']
  else if c = '\t' then ['\\', 't']
  else if c.toNat < 0x20 then
    ['\\', 'u', '0', '0', Hex.digit (c.toNat / 16), Hex.digit (c.toNat % 16)]
  else [c]

/-- A string between quotes. -/
def quoted (s : String) : List Char := '"' :: s.toList.flatMap escapeChar ++ ['"']

/-- A line feed and the indentation of a level. -/
def newline (level : Nat) : List Char := '\n' :: List.replicate (2 * level) ' '

mutual

/-- The text of a document that stands at a level of indentation. -/
def prettyAt (level : Nat) : Json → List Char
  | .number n => (toString n).toList
  | .string s => quoted s
  | .array [] => ['[', ']']
  | .array (e :: es) =>
    '[' :: newline (level + 1) ++ e.prettyAt (level + 1) ++ prettyElements level es
  | .object [] => ['{', '}']
  | .object ((k, v) :: ms) =>
    '{' :: newline (level + 1) ++ quoted k ++ ':' :: ' ' :: v.prettyAt (level + 1) ++
      prettyMembers level ms

/-- The elements of an array after the first, and its end. -/
def prettyElements (level : Nat) : List Json → List Char
  | [] => newline level ++ [']']
  | e :: es => ',' :: newline (level + 1) ++ e.prettyAt (level + 1) ++ prettyElements level es

/-- The members of an object after the first, and its end. -/
def prettyMembers (level : Nat) : List (String × Json) → List Char
  | [] => newline level ++ ['}']
  | (k, v) :: ms =>
    ',' :: newline (level + 1) ++ quoted k ++ ':' :: ' ' :: v.prettyAt (level + 1) ++
      prettyMembers level ms

end

/-- The text of a document. -/
def pretty (j : Json) : String := String.ofList (j.prettyAt 0)

end Json

end Fieldwise
