import Fieldwise.Pattern.Ast
import Fieldwise.Pattern.Expr
import Fieldwise.Unicode.CaseFolding
import Fieldwise.Unicode.Class

/-!
# The meaning of what is written

`Ast.toExpr` gives a pattern's tree its meaning under the flags in force. A flag that is set holds
until the end of the group that it is set in, across the bars of an alternation. Where Unicode is
switched off, classes may hold ASCII characters only, since anything else could match a part of a
character.
-/

namespace Fieldwise.Pattern

/-- The flags in force. -/
structure Flags where
  caseInsensitive : Bool := false
  multiLine : Bool := false
  dotMatchesNewline : Bool := false
  swapGreed : Bool := false
  unicode : Bool := true
  crlf : Bool := false
  deriving BEq, DecidableEq, Repr

/-- The flags after some have been set or cleared. -/
def Flags.update (f : Flags) (items : List FlagItem) : Flags where
  caseInsensitive := (flagState .caseInsensitive true items).getD f.caseInsensitive
  multiLine := (flagState .multiLine true items).getD f.multiLine
  dotMatchesNewline := (flagState .dotMatchesNewline true items).getD f.dotMatchesNewline
  swapGreed := (flagState .swapGreed true items).getD f.swapGreed
  unicode := (flagState .unicode true items).getD f.unicode
  crlf := (flagState .crlf true items).getD f.crlf

/-- Closes a set under case folding, where case is ignored. -/
def Flags.foldSet (f : Flags) (set : CharSet) : CharSet :=
  if f.caseInsensitive then (if f.unicode then set.fold else set.foldAscii) else set

/-- Negates a set, where it is negated. Where Unicode is switched off the complement would hold
bytes that are no characters. -/
def Flags.negateSet (f : Flags) (span : Span) (negated : Bool) (set : CharSet) :
    Except Fault CharSet :=
  if !negated then .ok set
  else if f.unicode then .ok set.complement
  else .error ⟨.invalidUtf8, span⟩

/-- The set of a class with an escape of its own. -/
def Shorthand.toSet (f : Flags) (span : Span) (negated : Bool) (kind : Shorthand) :
    Except Fault CharSet :=
  f.negateSet span negated <|
    match kind, f.unicode with
    | .digit, true => digitSet
    | .space, true => spaceSet
    | .word, true => wordSet
    | .digit, false => ⟨AsciiClass.digit.ranges.toArray⟩
    | .space, false => ⟨AsciiClass.space.ranges.toArray⟩
    | .word, false => ⟨AsciiClass.word.ranges.toArray⟩

/-- The set that a property escape names. -/
def Flags.propertySet (f : Flags) (span : Span) (negated : Bool) (query : PropertyQuery) :
    Except Fault CharSet :=
  if !f.unicode then .error ⟨.unicodeNotAllowed, span⟩
  else
    match query.resolve with
    | .ok set => f.negateSet span negated (f.foldSet set)
    | .error .unknownProperty => .error ⟨.propertyUnknown, span⟩
    | .error .unknownValue => .error ⟨.propertyValueUnknown, span⟩

/-- The code point of a character in a class. -/
def Flags.classMember (f : Flags) (l : Literal) : Except Fault Nat :=
  let n := l.char.toNat
  if f.unicode || n < 0x80 then .ok n
  else .error ⟨if l.byte && n < 0x100 then .invalidUtf8 else .unicodeNotAllowed, l.span⟩

/-- Applies an operator between sets. -/
def SetOp.apply : SetOp → CharSet → CharSet → CharSet
  | .inter, s, t => s.inter t
  | .diff, s, t => s.diff t
  | .symmDiff, s, t => s.symmDiff t

mutual

/-- The set of a class in brackets, or of a part of one. -/
def ClassSet.toSet (f : Flags) : ClassSet → Except Fault CharSet
  | .empty _ => .ok .empty
  | .literal l => do
    let n ← f.classMember l
    .ok ⟨#[(n, n)]⟩
  | .range _ first last => do
    let lo ← f.classMember first
    let hi ← f.classMember last
    .ok ⟨#[(lo, hi)]⟩
  | .ascii span negated kind => f.negateSet span negated (f.foldSet ⟨kind.ranges.toArray⟩)
  | .property span negated query => f.propertySet span negated query
  | .shorthand span negated kind => kind.toSet f span negated
  | .bracketed span negated set => do f.negateSet span negated (f.foldSet (← set.toSet f))
  | .union _ items => do
    let ranges ← ClassSet.toRanges f items
    .ok (.ofRanges ranges)
  | .operator _ op lhs rhs => do
    let s ← lhs.toSet f
    let t ← rhs.toSet f
    .ok (op.apply (f.foldSet s) (f.foldSet t))

/-- The ranges of several parts of a class. -/
def ClassSet.toRanges (f : Flags) : List ClassSet → Except Fault (List (Nat × Nat))
  | [] => .ok []
  | item :: rest => do
    let s ← item.toSet f
    let ranges ← ClassSet.toRanges f rest
    .ok (s.ranges.toList ++ ranges)

end

/-- The meaning of a character. -/
def Literal.toExpr (f : Flags) (l : Literal) : Except Fault Expr :=
  if !f.unicode && l.byte && 0x80 ≤ l.char.toNat && l.char.toNat < 0x100 then
    .error ⟨.invalidUtf8, l.span⟩
  else if !f.caseInsensitive then .ok (.literal [l.char])
  else if f.unicode then
    .ok (if hasCaseMates l.char then .ofSet false (CharSet.singleton l.char).fold
      else .literal [l.char])
  else
    .ok (if l.char.isAlpha then .ofSet true (CharSet.singleton l.char).foldAscii
      else .literal [l.char])

/-- The meaning of the dot. -/
def Flags.dot (f : Flags) (span : Span) : Except Fault Expr :=
  if !f.unicode then .error ⟨.invalidUtf8, span⟩
  else if f.dotMatchesNewline then .ok (.ofSet false .all)
  else
    let ends : List (Nat × Nat) := if f.crlf then [(0x0A, 0x0A), (0x0D, 0x0D)] else [(0x0A, 0x0A)]
    .ok (.ofSet false (CharSet.ofRanges ends).complement)

/-- The meaning of an assertion. -/
def Assertion.toLook (f : Flags) : Assertion → Look
  | .lineStart => if f.multiLine then .lineStart f.crlf else .textStart
  | .lineEnd => if f.multiLine then .lineEnd f.crlf else .textEnd
  | .textStart => .textStart
  | .textEnd => .textEnd
  | .wordBoundary => .wordBoundary !f.unicode
  | .notWordBoundary => .notWordBoundary !f.unicode
  | .wordStart => .wordStart !f.unicode
  | .wordEnd => .wordEnd !f.unicode
  | .wordStartHalf => .wordStartHalf !f.unicode
  | .wordEndHalf => .wordEndHalf !f.unicode

mutual

/-- The meaning of a tree under the flags in force, and the flags in force after it. -/
def Ast.toExpr (f : Flags) : Ast → Except Fault (Expr × Flags)
  | .empty _ => .ok (.empty, f)
  | .flags _ items => .ok (.empty, f.update items)
  | .literal l => do return (← l.toExpr f, f)
  | .dot span => do return (← f.dot span, f)
  | .assertion _ kind => .ok (.look (kind.toLook f), f)
  | .shorthand span negated kind => do
    return (.ofSet (!f.unicode) (← kind.toSet f span negated), f)
  | .property span negated query => do return (.ofSet false (← f.propertySet span negated query), f)
  | .bracketed span negated set => do
    let s ← f.negateSet span negated (f.foldSet (← set.toSet f))
    return (.ofSet (!f.unicode) s, f)
  | .repetition _ least greatest greedy sub => do
    let (e, f) ← sub.toExpr f
    return (.repetition least greatest (greedy != f.swapGreed) e, f)
  | .group _ kind sub =>
    match kind with
    | .capture index => do
      let (e, _) ← sub.toExpr f
      return (.capture index e, f)
    | .flagged items => do
      let (e, _) ← sub.toExpr (f.update items)
      return (e, f)
  | .alternation _ branches => do
    let (es, f) ← Ast.toExprs f branches
    return (.choice es, f)
  | .concat _ items => do
    let (es, f) ← Ast.toExprs f items
    return (.sequence es, f)

/-- The meanings of several trees in a row, where flags set in one hold in the next. -/
def Ast.toExprs (f : Flags) : List Ast → Except Fault (List Expr × Flags)
  | [] => .ok ([], f)
  | item :: rest => do
    let (e, f) ← item.toExpr f
    let (es, f) ← Ast.toExprs f rest
    return (e :: es, f)

end

end Fieldwise.Pattern
