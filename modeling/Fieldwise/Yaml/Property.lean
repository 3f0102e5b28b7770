import Fieldwise.Text.Hex
import Fieldwise.Yaml.Cursor
import Fieldwise.Yaml.Token

/-!
# Names, tags and directives

What may stand before a value, an anchor and a tag, and what may stand before a document, directives.
-/

namespace Fieldwise.Yaml

/-- Reads the name of an anchor or an alias, after its sign. -/
def readName (c : Cursor) : Option (String × Cursor) :=
  let name := c.rest.takeWhile isNameChar
  let after := c.skip name.length
  let ends := after.endsOr fun x =>
    isSpacing x || x == '?' || x == ':' || x == ',' || x == ']' || x == '}' || x == '%' || x == '@' ||
      x == '`'
  if name.isEmpty || !ends then none else some (String.ofList name, after)

/-! ### Tags -/

/-- The characters of a tag. More of them are allowed if angle brackets enclose it. -/
def isUriChar (enclosed : Bool) (c : Char) : Bool :=
  isNameChar c || ";/?:@&=+$.%!~*'()".toList.contains c || (enclosed && ",[]".toList.contains c)

/-- The number of an escaped byte that comes next. -/
def escapedByte? : List Char → Option Nat
  | '%' :: a :: b :: _ => do return (← Hex.digitValue? a) * 16 + (← Hex.digitValue? b)
  | _ => none

/-- The number of bytes of a character that begins with a byte, and what that byte gives of its
number. -/
def leadByte? (n : Nat) : Option (Nat × Nat) :=
  if n < 0x80 then some (1, n)
  else if n < 0xC0 then none
  else if n < 0xE0 then some (2, n - 0xC0)
  else if n < 0xF0 then some (3, n - 0xE0)
  else if n < 0xF8 then some (4, n - 0xF0)
  else none

/-- Adds the escaped bytes that continue a character to its number. -/
def continueEscape (n : Nat) (cs : List Char) : (count : Nat) → Option Nat
  | 0 => some n
  | count + 1 => do
    let byte ← escapedByte? cs
    if byte / 64 = 2 then continueEscape (n * 64 + byte % 64) (cs.drop 3) count else none

/-- The least number of a character of so many bytes. -/
def leastOfWidth : Nat → Nat
  | 2 => 0x80
  | 3 => 0x800
  | 4 => 0x10000
  | _ => 0

/-- The character that escaped bytes stand for, and their number. Numbers that are no character's in
this form stand for no certain character. -/
def uriEscape? (cs : List Char) : Option (Char × Nat) := do
  let (width, n) ← leadByte? (← escapedByte? cs)
  let n ← continueEscape n (cs.drop 3) (width - 1)
  let c := if leastOfWidth width ≤ n ∧ n.isValidChar then Char.ofNat n else '\uFFFD'
  return (c, width)

/-- Reads the characters of a tag. -/
def readUri (enclosed : Bool) (c : Cursor) : Option (List Char × Cursor) :=
  match _h : c.rest with
  | [] => some ([], c)
  | x :: _ =>
    if x = '%' then
      match uriEscape? c.rest with
      | none => none
      | some (y, width) =>
        (readUri enclosed (c.skip (1 + (3 * width - 1)))).map fun (text, c) => (y :: text, c)
    else if isUriChar enclosed x then
      (readUri enclosed (c.skip 1)).map fun (text, c) => (x :: text, c)
    else some ([], c)
  termination_by c.rest.length
  decreasing_by
  all_goals exact length_skip_lt (by simp [_h]) (by omega)

/-- Reads the characters of a tag, of which there must be one. -/
def readUriNonempty (enclosed : Bool) (c : Cursor) : Option (List Char × Cursor) := do
  let (text, c) ← readUri enclosed c
  if text.isEmpty then none else some (text, c)

/-- Reads an exclamation mark, a name that may be empty, and another mark if there is one. Also tells
whether there is. -/
def readHandle (c : Cursor) : Option (List Char × Bool × Cursor) :=
  if !c.isAt '!' then none
  else
    let name := (c.skip 1).rest.takeWhile isNameChar
    let after := c.skip (1 + name.length)
    if after.isAt '!' then some ('!' :: name ++ ['!'], true, after.skip 1)
    else some ('!' :: name, false, after)

/-- Reads a tag, as a handle and what follows it. -/
def readTag (flow : Bool) (c : Cursor) : Option (TokenKind × Cursor) := do
  let (handle, suffix, c) ←
    if c.rest.tail.head? = some '<' then
      let (uri, c) ← readUriNonempty true (c.skip 2)
      if c.isAt '>' then some ([], uri, c.skip 1) else none
    else
      let (handle, closed, after) ← readHandle c
      if closed then
        let (uri, c) ← readUriNonempty false after
        some (handle, uri, c)
      else
        let (uri, c) ← readUri false after
        let suffix := handle.tail ++ uri
        some (if suffix.isEmpty then ([], ['!'], c) else (['!'], suffix, c))
  if c.atSpacing || (flow && c.isAt ',') then
    some (.tag (String.ofList handle) (String.ofList suffix), c)
  else none

/-! ### Directives -/

/-- Reads a number of at most nine digits. -/
def readNumber (c : Cursor) : Option (Nat × Cursor) :=
  let digits := c.rest.takeWhile Char.isDigit
  if digits.isEmpty || 9 < digits.length then none
  else some (digits.foldl (fun n d => n * 10 + (d.toNat - '0'.toNat)) 0, c.skip digits.length)

/-- Reads the value of a version directive. -/
def readVersion (c : Cursor) : Option (TokenKind × Cursor) := do
  let (major, c) ← readNumber (c.skipWhile isBlank)
  if c.isAt '.' then
    let (minor, c) ← readNumber (c.skip 1)
    some (.versionDirective major minor, c)
  else none

/-- Reads the value of a tag directive. -/
def readTagDirective (c : Cursor) : Option (TokenKind × Cursor) := do
  let (handle, closed, c) ← readHandle (c.skipWhile isBlank)
  if (closed || handle = ['!']) && c.rest.head?.any isBlank then
    let (uri, c) ← readUriNonempty true (c.skipWhile isBlank)
    if c.atSpacing then some (.tagDirective (String.ofList handle) (String.ofList uri), c) else none
  else none

/-- Reads a directive, after its first character, with the end of its line. -/
def readDirective (c : Cursor) : Option (TokenKind × Cursor) := do
  let name := c.rest.takeWhile isNameChar
  let c := c.skip name.length
  if !c.atSpacing then none
  let (kind, c) ←
    match String.ofList name with
    | "YAML" => readVersion c
    | "TAG" => readTagDirective c
    | _ => none
  let c := c.skipWhile isBlank
  let c := if c.isAt '#' then c.skipToLineEnd else c
  if c.atLineEnd then some (kind, c.skipLine) else none

end Fieldwise.Yaml
