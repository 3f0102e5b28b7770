import Fieldwise.Pattern.Expr
import Fieldwise.Unicode.Utf8Ranges

/-!
# The size of a pattern

A pattern may take so much memory and no more, for an automaton that reads UTF-8 byte by byte, forwards
and backwards. Sizes are computed from the expression, so that the automaton of a pattern that is too
large is never built. `sizeLimit` is the limit for the patterns of rules, and `defaultSizeLimit` that for
all others.

An automaton has 32 bytes for each state, 8 for each transition of a state on several byte ranges,
and 4 for each choice of a state without input.
-/

namespace Fieldwise.Pattern

/-- The greatest size of the automaton of a rule's pattern, in bytes: 10 MiB. -/
def sizeLimit : Nat := 10 <<< 20

/-- The greatest size of the automaton of any other pattern, in bytes. -/
def defaultSizeLimit : Nat := 10 <<< 20

/-- The direction in which an automaton reads. Read backwards, it marks no groups. -/
inductive Direction where
  | forwards
  | backwards
  deriving BEq, DecidableEq

/-- The bytes of states without transitions of their own. -/
def stateSize (n : Nat) : Nat := 32 * n

/-- The bytes of a state that chooses between `n` others. -/
def choiceSize (n : Nat) : Nat := 32 + 4 * n

/-- The bytes of a state with `n` transitions on byte ranges. -/
def rangesSize (n : Nat) : Nat := 32 + 8 * n

/-- The size of a class. Forwards, the byte sequences of its characters share their ends; backwards,
they share their beginnings and are chosen from at once. -/
def classSize (d : Direction) (set : CharSet) : Nat :=
  if set.isAscii then stateSize 1 + rangesSize set.ranges.size
  else
    let sequences := byteSequences set.ranges.toList
    match d with
    | .forwards =>
      let (states, transitions) := sharedSuffixes sequences
      stateSize (states + 1) + 8 * transitions
    | .backwards =>
      stateSize 1 + choiceSize sequences.length + stateSize (countBeginnings 4 sequences)

/-- The bytes of a text as single ranges. -/
def literalBytes (d : Direction) (text : List Char) : List Nat :=
  let bytes := text.flatMap fun c => encodePoint c.toNat
  match d with
  | .forwards => bytes
  | .backwards => bytes.reverse

/-- The size of the tree that reads one of several texts, of `length` bytes at most, byte by byte.
Texts that begin alike share their beginnings. -/
def treeSize : (length : Nat) → List (List Nat) → Nat
  | 0, _ => 0
  | length + 1, texts =>
    let texts := texts.filter fun t => !t.isEmpty
    let heads := (texts.filterMap List.head?).eraseDups
    if heads.isEmpty then 0
    else
      let node := if heads.length = 1 then stateSize 1 else rangesSize heads.length
      node + choiceSize 1 +
        (heads.map fun b =>
          treeSize length ((texts.filter fun t => t.head? == some b).map List.tail)).sum

/-- The texts of expressions that are all literals. -/
def literals? : List Expr → Option (List (List Char))
  | [] => some []
  | .literal text :: rest => do return text :: (← literals? rest)
  | _ :: _ => none

/-- The size of a repetition of an expression. -/
def repeatedSize (least : Nat) (greatest : Option Nat) (consumes : Bool) (sub : Nat) : Nat :=
  match greatest with
  | none =>
    if least = 0 then
      if consumes then choiceSize 2 + sub else sub + 2 * choiceSize 2 + stateSize 1
    else least * sub + choiceSize 2
  | some greatest =>
    if least = greatest then least * sub
    else if least = 0 ∧ greatest = 1 then choiceSize 2 + sub + stateSize 1
    else
      (if least = 0 then stateSize 1 else least * sub) + stateSize 1 +
        (greatest - least) * (choiceSize 2 + sub)

mutual

/-- The size of an expression's automaton. -/
def Expr.footprint (d : Direction) : Expr → Nat
  | .empty | .look _ => stateSize 1
  | .literal text => stateSize (literalBytes d text).length
  | .chars _ set => classSize d set
  | .repeated least greatest _ sub =>
    repeatedSize least greatest sub.consumes (sub.footprint d)
  | .capture _ sub =>
    match d with
    | .forwards => stateSize 2 + sub.footprint d
    | .backwards => sub.footprint d
  | .concat items => Expr.footprints d items
  | .alternation branches =>
    match literals? branches with
    | some texts =>
      let bytes := texts.map (literalBytes d)
      treeSize ((bytes.map List.length).foldl max 0) bytes + stateSize 1
    | none => choiceSize branches.length + stateSize 1 + Expr.footprints d branches

/-- The sizes of several expressions' automata together. -/
def Expr.footprints (d : Direction) : List Expr → Nat
  | [] => 0
  | e :: es => e.footprint d + Expr.footprints d es

end

/-- The size of the automaton of a whole pattern: the states before a match that may begin anywhere,
those that mark the match as a whole, and the last one. -/
def Expr.programSize (d : Direction) (e : Expr) : Nat :=
  let anywhere := if e.isAnchored && d == .forwards then stateSize 1 else choiceSize 2 + stateSize 1
  let marks := match d with
    | .forwards => stateSize 2
    | .backwards => 0
  anywhere + marks + e.footprint d + stateSize 1

/-- Whether the automata of a pattern are small enough. -/
def Expr.fits (limit : Nat) (e : Expr) : Bool :=
  e.programSize .forwards ≤ limit && e.programSize .backwards ≤ limit

end Fieldwise.Pattern
