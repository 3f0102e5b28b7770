import Fieldwise.Yaml.Error

/-!
# Places in a YAML text

The classes of characters that matter to the notation, and a `Cursor`: what is still to be read of a
text, and where in the text that is.
-/

namespace Fieldwise.Yaml

/-- Whether a character may stand in a text. -/
def isAllowed (c : Char) : Bool :=
  let n := c.toNat
  n == 0x09 || n == 0x0A || n == 0x0D || (0x20 ≤ n && n ≤ 0x7E) || n == 0x85 ||
    (0xA0 ≤ n && n ≤ 0xD7FF) || (0xE000 ≤ n && n ≤ 0xFFFD) || 0x10000 ≤ n

/-- Line breaks. -/
def isBreak (c : Char) : Bool :=
  c == '\n' || c == '\r' || c == '\u0085' || c == '\u2028' || c == '\u2029'

/-- Blanks. -/
def isBlank (c : Char) : Bool := c == ' ' || c == '\t'

/-- Blanks and line breaks. -/
def isSpacing (c : Char) : Bool := isBlank c || isBreak c

/-- The characters of names. -/
def isNameChar (c : Char) : Bool := c.isAlphanum || c == '_' || c == '-'

/-- What is still to be read, with the number of characters before it, its line and its column. -/
structure Cursor where
  rest : List Char
  index : Nat
  line : Nat
  column : Nat

namespace Cursor

/-- The beginning of a text. -/
def start (text : List Char) : Cursor := ⟨text, 0, 0, 0⟩

/-- The place in the text. -/
def mark (c : Cursor) : Mark := ⟨c.line, c.column⟩

/-- Steps over so many characters of a line. -/
def skip (c : Cursor) (n : Nat) : Cursor :=
  { c with rest := c.rest.drop n, index := c.index + n, column := c.column + n }

/-- Steps over the characters of a class. -/
def skipWhile (c : Cursor) (p : Char → Bool) : Cursor := c.skip (c.rest.takeWhile p).length

/-- Steps over a line break, which may be two characters. -/
def skipLine (c : Cursor) : Cursor :=
  match c.rest with
  | '\r' :: '\n' :: rest => { rest, index := c.index + 2, line := c.line + 1, column := 0 }
  | _ :: rest => { rest, index := c.index + 1, line := c.line + 1, column := 0 }
  | [] => c

/-- The character that comes next. -/
def next? (c : Cursor) : Option Char := c.rest.head?

/-- Whether a certain character comes next. -/
def isAt (c : Cursor) (x : Char) : Bool := c.next? == some x

/-- Whether the text ends here or the character that comes next is of a class. -/
def endsOr (c : Cursor) (p : Char → Bool) : Bool := c.rest.head?.all p

/-- Whether the text ends here, or a line or a word does. -/
def atSpacing (c : Cursor) : Bool := c.endsOr isSpacing

/-- Whether the line ends here. -/
def atLineEnd (c : Cursor) : Bool := c.endsOr isBreak

/-- Whether a line break comes next. -/
def atBreak (c : Cursor) : Bool := c.rest.head?.any isBreak

/-- Steps over the rest of the line, but not over the break. -/
def skipToLineEnd (c : Cursor) : Cursor := c.skipWhile fun x => !isBreak x

end Cursor

/-- Whether some characters begin with a blank or a break, or there are none. -/
def endsWord (cs : List Char) : Bool := cs.head?.all isSpacing

/-- What a line break counts as. -/
def breakValue (c : Char) : Char := if c == '\u2028' || c == '\u2029' then c else '\n'

/-- Whether three hyphens or three points, followed by spacing, come next: at the beginning of a line
they delimit a document. -/
def atDelimiter : List Char → Bool
  | '-' :: '-' :: '-' :: rest => endsWord rest
  | '.' :: '.' :: '.' :: rest => endsWord rest
  | _ => false

/-- A line break that is stepped over leaves less of the text. -/
theorem length_skipLine_lt {c : Cursor} (h : c.rest ≠ []) :
    c.skipLine.rest.length < c.rest.length := by
  unfold Cursor.skipLine
  split
  · rename_i rest hrest
    rw [hrest, List.length_cons, List.length_cons]
    show rest.length < _
    omega
  · rename_i rest _ hrest
    rw [hrest, List.length_cons]
    exact Nat.lt_succ_self rest.length
  · contradiction

theorem length_skipLine_le (c : Cursor) : c.skipLine.rest.length ≤ c.rest.length := by
  by_cases h : c.rest = []
  · rw [Cursor.skipLine, h]
    exact Nat.le_of_eq (congrArg List.length h)
  · exact Nat.le_of_lt (length_skipLine_lt h)

theorem length_skip_le (c : Cursor) (n : Nat) : (c.skip n).rest.length ≤ c.rest.length := by
  simp [Cursor.skip]

theorem length_skip_lt {c : Cursor} {n : Nat} (h : c.rest ≠ []) (hn : 0 < n) :
    (c.skip n).rest.length < c.rest.length := by
  have : 0 < c.rest.length := List.length_pos_iff.2 h
  simp only [Cursor.skip, List.length_drop]
  omega

end Fieldwise.Yaml
