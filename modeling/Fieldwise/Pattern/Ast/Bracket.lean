import Fieldwise.Pattern.Ast.Primitive

/-!
# Classes in brackets

`readBracketed` reads a class that is written between square brackets, with ranges, classes of their
own name, nested brackets and the operators `&&`, `--` and `~~` between sets. The brackets that are
open and the operators that wait for their right-hand side are kept on a stack.
-/

namespace Fieldwise.Pattern

/-- Items of a class that follow each other, the last one first, and the part of the text that they
take. -/
structure Items where
  span : Span
  reversed : List ClassSet

/-- No items yet, at a place. -/
def Items.start (pos : Nat) : Items := ⟨.point pos, []⟩

/-- Adds an item. -/
def Items.push (u : Items) (item : ClassSet) : Items :=
  let start := if u.reversed.isEmpty then item.span.start else u.span.start
  ⟨⟨start, item.span.stop⟩, item :: u.reversed⟩

/-- The items as one set. -/
def Items.toSet (u : Items) : ClassSet :=
  match u.reversed with
  | [] => .empty u.span
  | [item] => item
  | items => .union u.span items.reverse

/-- What is open within a class: a bracket, together with the items that stood before it, or an
operator with its left-hand side. -/
inductive Open where
  | bracket (before : Items) (span : Span) (negated : Bool)
  | operator (op : SetOp) (lhs : ClassSet)

/-- The fault of a class that is not closed, at its innermost open bracket. -/
def unclosedClass {α : Type} : List Open → Except Fault α
  | [] => fault .classUnclosed default
  | .bracket _ span _ :: _ => fault .classUnclosed span
  | .operator _ _ :: rest => unclosedClass rest

/-- Gives the operator on top of the stack, if there is one, its right-hand side. -/
def closeOperator (rhs : ClassSet) : List Open → ClassSet × List Open
  | .operator op lhs :: rest => (.operator ⟨lhs.span.start, rhs.span.stop⟩ op lhs rhs, rest)
  | stack => (rhs, stack)

/-- Reads the hyphens at the start of a class, which stand for themselves. `start` is where the
class begins. -/
def readHyphens (start : Nat) (u : Items) (c : Cursor) : Except Fault (Items × Cursor) :=
  match _h : c.rest with
  | '-' :: _ =>
    let u := u.push (.literal ⟨c.here, '-', false⟩)
    if c.bumpSpaced.atEnd then fault .classUnclosed (.point start)
    else readHyphens start u c.bumpSpaced
  | _ => .ok (u, c)
  termination_by c.rest.length
  decreasing_by exact Cursor.length_bumpSpaced _h

/-- Reads an opening bracket with what has a meaning of its own right after it: the caret that
negates the class, hyphens, and a closing bracket that stands for itself. Yields the open bracket,
given what stood before it, and the first items. -/
def readOpening (before : Items) (c : Cursor) : Except Fault ((Open × Items) × Cursor) := do
  let start := c.pos
  let c := c.bumpSpaced
  if c.atEnd then fault .classUnclosed (c.since start)
  else
    let negated := c.peek? == some '^'
    let c := if negated then c.bumpSpaced else c
    if c.atEnd then fault .classUnclosed (c.since start)
    else
      let (u, c) ← readHyphens start (.start c.pos) c
      if u.reversed.isEmpty && c.peek? == some ']' then
        let u := u.push (.literal ⟨c.here, ']', false⟩)
        let c := c.bumpSpaced
        if c.atEnd then fault .classUnclosed (c.since start)
        else .ok ((.bracket before (c.since start) negated, u), c)
      else .ok ((.bracket before (c.since start) negated, u), c)

/-- Reads a class by name, such as `[:alpha:]`, if one comes next. -/
def readAsciiClass? (c : Cursor) : Option (ClassSet × Cursor) := do
  let inner ← c.skip? "[:".toList
  let negated := inner.peek? == some '^'
  let inner := if negated then inner.bump else inner
  let name := inner.rest.takeWhile (· != ':')
  let inner ← inner.skip? name
  let after ← inner.skip? ":]".toList
  let kind ← AsciiClass.ofName? name
  some (.ascii (after.since c.pos) negated kind, after)

/-- Reads one end of a range, or an item that is no range. -/
def readClassItem (c : Cursor) : Except Fault (Primitive × Cursor) :=
  match c.rest with
  | '\\' :: _ => readEscape c
  | x :: _ => .ok (.literal ⟨c.here, x, false⟩, c.bump)
  | [] => fault .classUnclosed c.point

/-- The item as a part of a class. -/
def Primitive.toSet : Primitive → Except Fault ClassSet
  | .literal l => .ok (.literal l)
  | .shorthand s n k => .ok (.shorthand s n k)
  | .property s n q => .ok (.property s n q)
  | .dot s | .assertion s _ => fault .classEscapeInvalid s

/-- The item as an end of a range. -/
def Primitive.toRangeEnd : Primitive → Except Fault Literal
  | .literal l => .ok l
  | p => fault .classRangeLiteral p.span

/-- Reads an item of a class, or a range. A hyphen makes a range unless a closing bracket or another
hyphen follows it. -/
def readRange (stack : List Open) (c : Cursor) : Except Fault (ClassSet × Cursor) := do
  let (first, c) ← readClassItem c
  let c := c.skipSpace
  match c.rest with
  | [] => unclosedClass stack
  | '-' :: _ =>
    let second := c.peekSecond?
    if second == some ']' || second == some '-' then
      return (← first.toSet, c)
    else
      let c := c.bumpSpaced
      if c.atEnd then unclosedClass stack
      else
        let (last, c) ← readClassItem c
        let span : Span := ⟨first.span.start, last.span.stop⟩
        let lo ← first.toRangeEnd
        let hi ← last.toRangeEnd
        if lo.char ≤ hi.char then .ok (.range span lo hi, c) else fault .classRangeInvalid span
  | _ => return (← first.toSet, c)

/-- The operator that comes next, if any. -/
def operator? (c : Cursor) : Option (SetOp × Cursor) :=
  match c.rest with
  | '&' :: '&' :: _ => some (.inter, c.bump.bump)
  | '-' :: '-' :: _ => some (.diff, c.bump.bump)
  | '~' :: '~' :: _ => some (.symmDiff, c.bump.bump)
  | _ => none

/-- Where reading a class has got to: what is open, and the items read since; or the finished
class. -/
inductive ClassState where
  | reading (stack : List Open) (items : Items)
  | done (set : Ast)

/-- Closes the innermost bracket at the closing bracket that comes next. -/
def closeBracket (stack : List Open) (u : Items) (c : Cursor) : ClassState × Cursor :=
  let after := c.bump
  let (set, stack) := closeOperator u.toSet stack
  match stack with
  | .bracket before span negated :: rest =>
    let span := ⟨span.start, after.pos⟩
    if rest.isEmpty then (.done (.bracketed span negated set), after)
    else (.reading rest (before.push (.bracketed span negated set)), after)
  | _ => (.reading stack u, after)

/-- Reads one part of a class: a bracket, an operator, an item or a range. -/
def readClassPart (stack : List Open) (u : Items) (c : Cursor) :
    Except Fault (ClassState × Cursor) :=
  let opening : Except Fault (ClassState × Cursor) := do
    let ((bracket, items), c) ← readOpening u c
    .ok (.reading (bracket :: stack) items, c)
  match c.rest with
  | [] => unclosedClass stack
  | '[' :: _ =>
    if stack.isEmpty then opening
    else
      match readAsciiClass? c with
      | some (set, c) => .ok (.reading stack (u.push set), c)
      | none => opening
  | ']' :: _ => .ok (closeBracket stack u c)
  | _ =>
    match operator? c with
    | some (op, c) =>
      let (lhs, stack) := closeOperator u.toSet stack
      .ok (.reading (.operator op lhs :: stack) (.start c.pos), c)
    | none => do
      let (set, c) ← readRange stack c
      .ok (.reading stack (u.push set), c)

/-- Reads a class to its end, part by part. -/
def readClass (stack : List Open) (u : Items) (c : Cursor) : Except Fault (Ast × Cursor) :=
  match readClassPart stack u c.skipSpace with
  | .error f => .error f
  | .ok (.done set, after) => .ok (set, after)
  | .ok (.reading stack' u', after) =>
    if _h : after.rest.length < c.rest.length then readClass stack' u' after
    else unclosedClass stack'
  termination_by c.rest.length

/-- Reads the class in brackets that begins at the cursor. -/
def readBracketed (c : Cursor) : Except Fault (Ast × Cursor) := readClass [] (.start c.pos) c

end Fieldwise.Pattern
