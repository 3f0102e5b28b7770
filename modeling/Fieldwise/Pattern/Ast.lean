import Fieldwise.Pattern.Fault
import Fieldwise.Unicode.Property

/-!
# Patterns as written

`Ast` is a pattern's text taken apart: each node holds the part of the text that it came from, which
faults found later refer to. Flags stand where they were written; what they do is settled when the
tree is given its meaning.
-/

namespace Fieldwise.Pattern

/-- The flags that can be set within a pattern. -/
inductive Flag where
  | caseInsensitive
  | multiLine
  | dotMatchesNewline
  | swapGreed
  | unicode
  | crlf
  | verbose
  deriving BEq, DecidableEq, Repr

/-- What is written where flags are set: a flag, or the hyphen after which flags are cleared. -/
inductive FlagItem where
  | flag (f : Flag)
  | negation
  deriving BEq, DecidableEq, Repr

/-- Whether the items set a flag, clear it or leave it alone. `on` is false after a hyphen. -/
def flagState (f : Flag) (on : Bool) : List FlagItem → Option Bool
  | [] => none
  | .negation :: rest => flagState f false rest
  | .flag g :: rest => if g == f then some on else flagState f on rest

/-- A character that stands for itself, or the escape for one. -/
structure Literal where
  span : Span
  char : Char
  /-- Whether it is written as a fixed number of hexadecimal digits, and so stands for a byte where
  Unicode is switched off. -/
  byte : Bool
  deriving BEq, DecidableEq, Repr, Inhabited

/-- The classes with an escape of their own. -/
inductive Shorthand where
  | digit
  | space
  | word
  deriving BEq, DecidableEq, Repr

/-- The classes with a name in brackets, all of them ASCII. -/
inductive AsciiClass where
  | alnum | alpha | ascii | blank | cntrl | digit | graph | lower | print | punct | space | upper
  | word | xdigit
  deriving BEq, DecidableEq, Repr

/-- The class with the given name. -/
def AsciiClass.ofName? (name : List Char) : Option AsciiClass :=
  match String.ofList name with
  | "alnum" => some .alnum
  | "alpha" => some .alpha
  | "ascii" => some .ascii
  | "blank" => some .blank
  | "cntrl" => some .cntrl
  | "digit" => some .digit
  | "graph" => some .graph
  | "lower" => some .lower
  | "print" => some .print
  | "punct" => some .punct
  | "space" => some .space
  | "upper" => some .upper
  | "word" => some .word
  | "xdigit" => some .xdigit
  | _ => none

/-- The ranges of an ASCII class. -/
def AsciiClass.ranges : AsciiClass → List (Nat × Nat)
  | .alnum => [(0x30, 0x39), (0x41, 0x5A), (0x61, 0x7A)]
  | .alpha => [(0x41, 0x5A), (0x61, 0x7A)]
  | .ascii => [(0, 0x7F)]
  | .blank => [(0x09, 0x09), (0x20, 0x20)]
  | .cntrl => [(0, 0x1F), (0x7F, 0x7F)]
  | .digit => [(0x30, 0x39)]
  | .graph => [(0x21, 0x7E)]
  | .lower => [(0x61, 0x7A)]
  | .print => [(0x20, 0x7E)]
  | .punct => [(0x21, 0x2F), (0x3A, 0x40), (0x5B, 0x60), (0x7B, 0x7E)]
  | .space => [(0x09, 0x0D), (0x20, 0x20)]
  | .upper => [(0x41, 0x5A)]
  | .word => [(0x30, 0x39), (0x41, 0x5A), (0x5F, 0x5F), (0x61, 0x7A)]
  | .xdigit => [(0x30, 0x39), (0x41, 0x46), (0x61, 0x66)]

/-- The operators between sets within brackets. -/
inductive SetOp where
  | inter
  | diff
  | symmDiff
  deriving BEq, DecidableEq, Repr

/-- What is written within brackets. -/
inductive ClassSet where
  | empty (span : Span)
  | literal (l : Literal)
  | range (span : Span) (first last : Literal)
  | ascii (span : Span) (negated : Bool) (kind : AsciiClass)
  | property (span : Span) (negated : Bool) (query : PropertyQuery)
  | shorthand (span : Span) (negated : Bool) (kind : Shorthand)
  | bracketed (span : Span) (negated : Bool) (set : ClassSet)
  | union (span : Span) (items : List ClassSet)
  | operator (span : Span) (op : SetOp) (lhs rhs : ClassSet)
  deriving Inhabited

/-- The part of the text that a set came from. -/
def ClassSet.span : ClassSet → Span
  | .literal l => l.span
  | .empty s | .range s .. | .ascii s .. | .property s .. | .shorthand s .. | .bracketed s ..
  | .union s _ | .operator s .. => s

/-- The assertions: the ends of lines and of the text, and the boundaries of words. -/
inductive Assertion where
  | lineStart
  | lineEnd
  | textStart
  | textEnd
  | wordBoundary
  | notWordBoundary
  | wordStart
  | wordEnd
  | wordStartHalf
  | wordEndHalf
  deriving BEq, DecidableEq, Repr

/-- What a group is for. -/
inductive GroupKind where
  | capture (index : Nat)
  | flagged (items : List FlagItem)
  deriving BEq, DecidableEq, Repr

/-- A pattern's text, taken apart. A repetition without a greatest count has none. -/
inductive Ast where
  | empty (span : Span)
  | flags (span : Span) (items : List FlagItem)
  | literal (l : Literal)
  | dot (span : Span)
  | assertion (span : Span) (kind : Assertion)
  | shorthand (span : Span) (negated : Bool) (kind : Shorthand)
  | property (span : Span) (negated : Bool) (query : PropertyQuery)
  | bracketed (span : Span) (negated : Bool) (set : ClassSet)
  | repetition (span : Span) (least : Nat) (greatest : Option Nat) (greedy : Bool) (sub : Ast)
  | group (span : Span) (kind : GroupKind) (sub : Ast)
  | alternation (span : Span) (branches : List Ast)
  | concat (span : Span) (items : List Ast)
  deriving Inhabited

/-- The part of the text that a node came from. -/
def Ast.span : Ast → Span
  | .literal l => l.span
  | .empty s | .flags s _ | .dot s | .assertion s _ | .shorthand s .. | .property s ..
  | .bracketed s .. | .repetition s .. | .group s .. | .alternation s _ | .concat s _ => s

end Fieldwise.Pattern
