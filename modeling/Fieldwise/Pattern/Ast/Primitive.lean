import Fieldwise.Pattern.Ast
import Fieldwise.Pattern.Cursor

/-!
# Single items of a pattern

The items that a pattern is put together from: characters, the dot, assertions, and the escapes.
Each reader starts at the first character of an item and returns the item and the cursor after it.
-/

namespace Fieldwise.Pattern

/-- A fault of a kind at a span. -/
def fault {α : Type} (kind : FaultKind) (span : Span) : Except Fault α := .error ⟨kind, span⟩

/-- An item of a pattern that is no group, no bracketed class and no operator. -/
inductive Primitive where
  | literal (l : Literal)
  | dot (span : Span)
  | assertion (span : Span) (kind : Assertion)
  | shorthand (span : Span) (negated : Bool) (kind : Shorthand)
  | property (span : Span) (negated : Bool) (query : PropertyQuery)
  deriving Repr

/-- The part of the text that an item came from. -/
def Primitive.span : Primitive → Span
  | .literal l => l.span
  | .dot s | .assertion s _ | .shorthand s .. | .property s .. => s

/-- The item as a node of its own. -/
def Primitive.toAst : Primitive → Ast
  | .literal l => .literal l
  | .dot s => .dot s
  | .assertion s k => .assertion s k
  | .shorthand s n k => .shorthand s n k
  | .property s n q => .property s n q

/-- Whether a character has a meaning of its own somewhere in a pattern, so that an escape before it
takes the meaning away. -/
def isMeta (c : Char) : Bool := "\\.+*?()|[]\x7b\x7d^$#&-~".toList.contains c

/-- Whether an escape may stand before the character: any ASCII character but the letters and
digits, which have escapes of their own, and the angle brackets. -/
def isEscapable (c : Char) : Bool :=
  isMeta c || (c.toNat < 0x80 && !c.isAlphanum && c != '<' && c != '>')

/-- The value of a hexadecimal digit. -/
def hexDigit? (c : Char) : Option Nat :=
  if c.isDigit then some (c.toNat - '0'.toNat)
  else if 'a' ≤ c && c ≤ 'f' then some (c.toNat - 'a'.toNat + 10)
  else if 'A' ≤ c && c ≤ 'F' then some (c.toNat - 'A'.toNat + 10)
  else none

/-- The character with the code point, if there is one. -/
def charOfNat? (n : Nat) : Option Char := if n.isValidChar then some (Char.ofNat n) else none

/-- Reads a fixed number of hexadecimal digits, of which `n` are still to come. -/
def readHexDigits (value : Nat) : (n : Nat) → Cursor → Except Fault (Nat × Cursor)
  | 0, c => .ok (value, c)
  | n + 1, c =>
    match c.rest with
    | [] => fault .escapeUnfinished c.point
    | x :: _ =>
      match hexDigit? x with
      | none => fault .hexInvalidDigit c.here
      | some d => readHexDigits (value * 16 + d) n c.bumpSpaced

@[grind →]
theorem length_readHexDigits {value n v : Nat} {c c' : Cursor}
    (h : readHexDigits value n c = .ok (v, c')) : c'.rest.length ≤ c.rest.length := by
  fun_induction readHexDigits value n c <;> grind [fault, Cursor.length_bumpSpaced_le]

/-- Reads hexadecimal digits up to a closing brace, which stays unread. `brace` is where the opening
brace stands. -/
def readBracedHex (brace : Nat) (digits : List Nat) (c : Cursor) :
    Except Fault (List Nat × Cursor) :=
  match _h : c.rest with
  | [] => fault .escapeUnfinished (c.since brace)
  | x :: _ =>
    if x == '}' then .ok (digits.reverse, c)
    else
      match hexDigit? x with
      | none => fault .hexInvalidDigit c.here
      | some d => readBracedHex brace (d :: digits) c.bumpSpaced
  termination_by c.rest.length
  decreasing_by exact Cursor.length_bumpSpaced _h

@[grind →]
theorem length_readBracedHex {brace : Nat} {digits ds : List Nat} {c c' : Cursor}
    (h : readBracedHex brace digits c = .ok (ds, c')) : c'.rest.length ≤ c.rest.length := by
  fun_induction readBracedHex brace digits c <;> grind [fault, Cursor.length_bumpSpaced_le]

/-- Reads the rest of an escape that gives a code point in hexadecimal: `width` digits, or any
number of them between braces. `start` is where the escape begins. -/
def readHex (start width : Nat) (c : Cursor) : Except Fault (Primitive × Cursor) :=
  let c := c.bumpSpaced
  match c.rest with
  | [] => fault .escapeUnfinished c.point
  | '{' :: _ => do
    let brace := c.pos
    let first := c.pos + 1
    let (digits, c) ← readBracedHex brace [] c.bumpSpaced
    let last := c.pos
    let c := c.bumpSpaced
    if digits.isEmpty then fault .hexEmpty (c.since brace)
    else
      match charOfNat? (digits.foldl (fun n d => n * 16 + d) 0) with
      | none => fault .hexInvalid ⟨first, last⟩
      | some x => .ok (.literal ⟨c.since start, x, false⟩, c)
  | _ => do
    let first := c.pos
    let (n, c) ← readHexDigits 0 width c
    match charOfNat? n with
    | none => fault .hexInvalid (c.since first)
    | some x => .ok (.literal ⟨c.since start, x, width == 2⟩, c)

@[grind →]
theorem length_readHex {start width : Nat} {p : Primitive} {c c' : Cursor}
    (h : readHex start width c = .ok (p, c')) : c'.rest.length ≤ c.rest.length := by
  have := c.length_bumpSpaced_le
  have := c.bumpSpaced.length_bumpSpaced_le
  simp only [readHex, bind, Except.bind] at h
  grind [fault, Cursor.length_bumpSpaced_le]

/-- Reads the name between the braces of a property escape, up to the closing brace, which stays
unread. -/
def readBracedName (name : List Char) (c : Cursor) : Except Fault (List Char × Cursor) :=
  match _h : c.rest with
  | [] => fault .escapeUnfinished c.point
  | x :: _ =>
    if x == '}' then .ok (name.reverse, c) else readBracedName (x :: name) c.bumpSpaced
  termination_by c.rest.length
  decreasing_by exact Cursor.length_bumpSpaced _h

@[grind →]
theorem length_readBracedName {name n : List Char} {c c' : Cursor}
    (h : readBracedName name c = .ok (n, c')) : c'.rest.length ≤ c.rest.length := by
  fun_induction readBracedName name c <;> grind [fault, Cursor.length_bumpSpaced_le]

/-- Splits a text at the first place where the separator stands. -/
def splitAtFirst? (separator : List Char) : List Char → Option (List Char × List Char)
  | [] => none
  | c :: cs =>
    if separator.isPrefixOf (c :: cs) then some ([], (c :: cs).drop separator.length)
    else (splitAtFirst? separator cs).map fun (before, after) => (c :: before, after)

/-- The query that the name in a property escape stands for: a property and its value with `!=`, `:`
or `=` between them, or one name. -/
def propertyQuery (name : List Char) : PropertyQuery :=
  match [['!', '='], [':'], ['=']].findSome? fun s => splitAtFirst? s name with
  | some (property, value) => .valued (String.ofList property) (String.ofList value)
  | none => .named (String.ofList name)

/-- Reads the rest of a property escape, from its letter on. -/
def readProperty (start : Nat) (negated : Bool) (c : Cursor) : Except Fault (Primitive × Cursor) :=
  let c := c.bumpSpaced
  match c.rest with
  | [] => fault .escapeUnfinished c.point
  | '{' :: _ => do
    let (name, c) ← readBracedName [] c.bumpSpaced
    let c := c.bump
    .ok (.property (c.since start) negated (propertyQuery name), c)
  | '\\' :: _ => fault .propertyInvalid c.here
  | x :: _ =>
    let c := c.bumpSpaced
    .ok (.property (c.since start) negated (.named (String.singleton x)), c)

@[grind →]
theorem length_readProperty {start : Nat} {negated : Bool} {p : Primitive} {c c' : Cursor}
    (h : readProperty start negated c = .ok (p, c')) : c'.rest.length ≤ c.rest.length := by
  have := c.length_bumpSpaced_le
  have := c.bumpSpaced.length_bumpSpaced_le
  simp only [readProperty, bind, Except.bind] at h
  grind [fault, Cursor.length_bump_le]

/-- Whether a character can stand in the name of a special word boundary. -/
def isBoundaryNameChar (c : Char) : Bool := c.isAlpha || c == '-'

/-- Reads the name of a special word boundary, as far as its characters go. -/
def readBoundaryName (name : List Char) (c : Cursor) : List Char × Cursor :=
  match _h : c.rest with
  | [] => (name.reverse, c)
  | x :: _ =>
    if isBoundaryNameChar x then readBoundaryName (x :: name) c.bumpSpaced else (name.reverse, c)
  termination_by c.rest.length
  decreasing_by exact Cursor.length_bumpSpaced _h

theorem length_readBoundaryName_le (name : List Char) (c : Cursor) :
    (readBoundaryName name c).2.rest.length ≤ c.rest.length := by
  fun_induction readBoundaryName name c <;> grind [Cursor.length_bumpSpaced_le]

/-- Reads what follows the escape for a word boundary. A brace may name one side of the boundary;
if no name can begin after it, the brace is left for a counted repetition. `start` is where the
escape begins. -/
def readBoundary (start : Nat) (plain : Cursor) : Except Fault (Primitive × Cursor) :=
  match plain.rest with
  | '{' :: _ =>
    let c := plain.bumpSpaced
    match c.rest with
    | [] => fault .wordBoundaryUnfinished (c.since start)
    | x :: _ =>
      if !isBoundaryNameChar x then .ok (.assertion (plain.since start) .wordBoundary, plain)
      else
        let first := c.pos
        let (name, c) := readBoundaryName [] c
        match c.rest with
        | '}' :: _ =>
          let last := c.pos
          let c := c.bump
          let assertion kind : Except Fault (Primitive × Cursor) :=
            .ok (.assertion (c.since start) kind, c)
          match String.ofList name with
          | "start" => assertion .wordStart
          | "end" => assertion .wordEnd
          | "start-half" => assertion .wordStartHalf
          | "end-half" => assertion .wordEndHalf
          | _ => fault .wordBoundaryUnrecognized ⟨first, last⟩
        | _ => fault .wordBoundaryUnclosed (c.since plain.pos)
  | _ => .ok (.assertion (plain.since start) .wordBoundary, plain)

@[grind →]
theorem length_readBoundary {start : Nat} {p : Primitive} {c c' : Cursor}
    (h : readBoundary start c = .ok (p, c')) : c'.rest.length ≤ c.rest.length := by
  have := c.length_bumpSpaced_le
  have := length_readBoundaryName_le [] c.bumpSpaced
  have := (readBoundaryName [] c.bumpSpaced).2.length_bump_le
  simp only [readBoundary] at h
  grind [fault]

/-- Reads an escape. -/
def readEscape (c : Cursor) : Except Fault (Primitive × Cursor) :=
  let start := c.pos
  let c := c.bump
  match c.rest with
  | [] => fault .escapeUnfinished (c.since start)
  | x :: _ =>
    let after := c.bump
    let span := after.since start
    let item (p : Primitive) : Except Fault (Primitive × Cursor) := .ok (p, after)
    let literal (y : Char) := item (.literal ⟨span, y, false⟩)
    let assertion kind := item (.assertion span kind)
    let shorthand negated kind := item (.shorthand span negated kind)
    if x.isDigit then fault .backreference span
    else if isEscapable x then literal x
    else
      match x with
      | 'x' => readHex start 2 c
      | 'u' => readHex start 4 c
      | 'U' => readHex start 8 c
      | 'p' => readProperty start false c
      | 'P' => readProperty start true c
      | 'd' => shorthand false .digit
      | 'D' => shorthand true .digit
      | 's' => shorthand false .space
      | 'S' => shorthand true .space
      | 'w' => shorthand false .word
      | 'W' => shorthand true .word
      | 'a' => literal '\x07'
      | 'f' => literal '\x0C'
      | 't' => literal '\t'
      | 'n' => literal '\n'
      | 'r' => literal '\r'
      | 'v' => literal '\x0B'
      | 'A' => assertion .textStart
      | 'z' => assertion .textEnd
      | 'b' => readBoundary start after
      | 'B' => assertion .notWordBoundary
      | '<' => assertion .wordStart
      | '>' => assertion .wordEnd
      | _ => fault .escapeUnrecognized span

@[grind →]
theorem length_readEscape {p : Primitive} {c c' : Cursor} (h : readEscape c = .ok (p, c')) :
    c'.rest.length < c.rest.length := by
  simp only [readEscape] at h
  split at h
  · simp [fault] at h
  · rename_i hb
    have := Cursor.length_bump hb
    have : c.bump.rest.length < c.rest.length := by
      cases hc : c.rest with
      | nil => simp [Cursor.bump, hc] at hb
      | cons x xs => simp [Cursor.bump, hc]
    repeat' split at h
    all_goals grind [fault]

/-- Reads one item. The rest must not be empty. -/
def readPrimitive (c : Cursor) : Except Fault (Primitive × Cursor) :=
  match c.rest with
  | '\\' :: _ => readEscape c
  | '.' :: _ => .ok (.dot c.here, c.bump)
  | '^' :: _ => .ok (.assertion c.here .lineStart, c.bump)
  | '$' :: _ => .ok (.assertion c.here .lineEnd, c.bump)
  | x :: _ => .ok (.literal ⟨c.here, x, false⟩, c.bump)
  | [] => fault .escapeUnfinished c.point

@[grind →]
theorem length_readPrimitive {p : Primitive} {c c' : Cursor} (h : readPrimitive c = .ok (p, c')) :
    c'.rest.length < c.rest.length := by
  grind [readPrimitive, fault, Cursor.length_bump]

end Fieldwise.Pattern
