import Fieldwise.Pattern.Fault
import Fieldwise.Unicode.Class

/-!
# A place in a pattern's text

`Cursor` is the part of a pattern that is still to be read. In verbose mode blanks and comments may
stand between the parts of a pattern, and `Cursor.bumpSpaced` steps over them.
-/

namespace Fieldwise.Pattern

/-- The rest of a pattern's text, the offset at which it begins, and whether the mode is verbose. -/
structure Cursor where
  pos : Nat
  rest : List Char
  verbose : Bool
  deriving DecidableEq, Repr

/-- Steps over white space and over comments, which run from a number sign to the end of the line. -/
def skipBlanks (inComment : Bool) (pos : Nat) : List Char → Nat × List Char
  | [] => (pos, [])
  | c :: cs =>
    if inComment then skipBlanks (c != '\n') (pos + 1) cs
    else if isSpace c then skipBlanks false (pos + 1) cs
    else if c == '#' then skipBlanks true (pos + 1) cs
    else (pos, c :: cs)

theorem length_skipBlanks (inComment : Bool) (pos : Nat) (cs : List Char) :
    (skipBlanks inComment pos cs).2.length ≤ cs.length := by
  induction cs generalizing inComment pos with
  | nil => simp [skipBlanks]
  | cons c cs ih =>
    unfold skipBlanks
    have h₁ := ih (c != '\n') (pos + 1)
    have h₂ := ih false (pos + 1)
    have h₃ := ih true (pos + 1)
    split
    · simp; omega
    · split
      · simp; omega
      · split
        · simp; omega
        · simp

namespace Cursor

/-- Steps over one character. -/
def bump (c : Cursor) : Cursor :=
  match c.rest with
  | [] => c
  | _ :: cs => { c with pos := c.pos + 1, rest := cs }

/-- Steps over blanks and comments, in verbose mode. -/
def skipSpace (c : Cursor) : Cursor :=
  if c.verbose then
    let r := skipBlanks false c.pos c.rest
    { c with pos := r.1, rest := r.2 }
  else c

/-- Steps over one character, and over the blanks and comments after it in verbose mode. -/
def bumpSpaced (c : Cursor) : Cursor := c.bump.skipSpace

/-- Whether the whole pattern has been read. -/
def atEnd (c : Cursor) : Bool := c.rest.isEmpty

/-- The next character. -/
def peek? (c : Cursor) : Option Char := c.rest.head?

/-- The span of the next character. -/
def here (c : Cursor) : Span := .char c.pos

/-- The span without extent before the next character. -/
def point (c : Cursor) : Span := .point c.pos

/-- The span from an offset up to the next character. -/
def since (c : Cursor) (start : Nat) : Span := ⟨start, c.pos⟩

/-- Steps over a given text, if it comes next. -/
def skip? (c : Cursor) (text : List Char) : Option Cursor :=
  if text.isPrefixOf c.rest then
    some { c with pos := c.pos + text.length, rest := c.rest.drop text.length }
  else none

theorem length_skipSpace (c : Cursor) : c.skipSpace.rest.length ≤ c.rest.length := by
  unfold skipSpace
  split
  · exact length_skipBlanks false c.pos c.rest
  · exact Nat.le_refl _

theorem length_bump_le (c : Cursor) : c.bump.rest.length ≤ c.rest.length := by
  unfold bump
  split <;> simp [*]

theorem length_bumpSpaced_le (c : Cursor) : c.bumpSpaced.rest.length ≤ c.rest.length :=
  Nat.le_trans (length_skipSpace c.bump) (length_bump_le c)

@[grind →]
theorem length_skip? {c c' : Cursor} {text : List Char} (h : c.skip? text = some c') :
    c'.rest.length ≤ c.rest.length := by
  grind [skip?]

theorem length_bump {c : Cursor} {x : Char} {cs : List Char} (h : c.rest = x :: cs) :
    c.bump.rest.length < c.rest.length := by
  simp [bump, h]

theorem length_bumpSpaced {c : Cursor} {x : Char} {cs : List Char} (h : c.rest = x :: cs) :
    c.bumpSpaced.rest.length < c.rest.length :=
  Nat.lt_of_le_of_lt (length_skipSpace c.bump) (length_bump h)

end Cursor

/-- The first character of a text that is no white space, where a number sign that begins a comment
counts as white space too. If there is none, the first character of all. -/
def firstVisible? (cs : List Char) : Option Char :=
  let visible := cs.dropWhile isSpace
  let visible := match visible with
    | '#' :: rest => rest.dropWhile isSpace
    | _ => visible
  visible.head?.or cs.head?

/-- The character after the next one, in verbose mode over blanks. -/
def Cursor.peekSecond? (c : Cursor) : Option Char :=
  if c.verbose then firstVisible? c.rest.tail else c.rest.tail.head?

end Fieldwise.Pattern
