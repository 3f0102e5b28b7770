/-!
# Sets of characters

`CharSet` is a set of Unicode characters, kept as its maximal ranges of code points in rising
order. `CharSet.ofRanges` brings any list of ranges into that form, and the operations on sets go
through it.

Surrogates are no characters. A range may run across the surrogates, but the successor of U+D7FF is
U+E000, so that no range begins or ends among them.
-/

namespace Fieldwise

/-- A set of characters, as ranges of code points with both ends included: in rising order, and no
two of them overlapping or adjacent. -/
structure CharSet where
  ranges : Array (Nat × Nat)
  deriving BEq, DecidableEq, Repr, Inhabited

namespace CharSet

/-- The last code point of Unicode. -/
def lastCodePoint : Nat := 0x10FFFF

/-- The next character's code point, over the surrogates. -/
def next (c : Nat) : Nat := if c = 0xD7FF then 0xE000 else c + 1

/-- The previous character's code point, over the surrogates. -/
def previous (c : Nat) : Nat := if c = 0xE000 then 0xD7FF else c - 1

/-- The range between two code points, in whichever order they come. -/
def span (a b : Nat) : Nat × Nat := (min a b, max a b)

/-- Joins ranges that overlap or are adjacent, in a list that rises by first code point. `r` is the
range that is being grown. -/
def join (r : Nat × Nat) : List (Nat × Nat) → List (Nat × Nat)
  | [] => [r]
  | s :: rest =>
    if s.1 ≤ r.2 + 1 then join (r.1, max r.2 s.2) rest else r :: join s rest

/-- The order in which ranges are joined: by first code point, then by last. -/
def rangeLe (r s : Nat × Nat) : Bool := r.1 < s.1 || (r.1 == s.1 && r.2 ≤ s.2)

/-- The set of the characters in any of the ranges. -/
def ofRanges (rs : List (Nat × Nat)) : CharSet :=
  match rs.mergeSort rangeLe with
  | [] => ⟨#[]⟩
  | r :: rest => ⟨(join r rest).toArray⟩

/-- The set without members. -/
def empty : CharSet := ⟨#[]⟩

/-- The set of all characters. -/
def all : CharSet := ⟨#[(0, lastCodePoint)]⟩

/-- The set of one character. -/
def singleton (c : Char) : CharSet := ⟨#[(c.toNat, c.toNat)]⟩

/-- Whether the set has no members. -/
def isEmpty (s : CharSet) : Bool := s.ranges.isEmpty

/-- The only member, if there is just one. -/
def single? (s : CharSet) : Option Char :=
  match s.ranges.toList with
  | [(a, b)] => if a = b then some (Char.ofNat a) else none
  | _ => none

/-- Looks for a code point among the ranges with indexes from `lo` up to `hi`, halving that part at
each step; `steps` bounds their number. -/
def search (ranges : Array (Nat × Nat)) (c : Nat) : (steps lo hi : Nat) → Bool
  | 0, _, _ => false
  | steps + 1, lo, hi =>
    if lo < hi then
      let mid := (lo + hi) / 2
      match ranges[mid]? with
      | none => false
      | some (first, last) =>
        if c < first then search ranges c steps lo mid
        else if last < c then search ranges c steps (mid + 1) hi
        else true
    else false

/-- Whether the character is a member. -/
def contains (s : CharSet) (c : Char) : Bool :=
  search s.ranges c.toNat s.ranges.size 0 s.ranges.size

/-- The characters of either set. -/
def union (s t : CharSet) : CharSet :=
  if s.isEmpty then t else if t.isEmpty then s else ofRanges (s.ranges.toList ++ t.ranges.toList)

/-- The gaps between neighbouring ranges, the first of which ends at `last`. -/
def gapsAfter (last : Nat) : List (Nat × Nat) → List (Nat × Nat)
  | [] => if last < lastCodePoint then [span (next last) lastCodePoint] else []
  | r :: rest => span (next last) (previous r.1) :: gapsAfter r.2 rest

/-- The characters that are not in the set. -/
def complement (s : CharSet) : CharSet :=
  match s.ranges.toList with
  | [] => all
  | r :: rest =>
    ⟨((if 0 < r.1 then [span 0 (previous r.1)] else []) ++ gapsAfter r.2 rest).toArray⟩

/-- The common parts of two rising lists of ranges. -/
def overlaps : List (Nat × Nat) → List (Nat × Nat) → List (Nat × Nat)
  | [], _ => []
  | _, [] => []
  | r :: rs, s :: ss =>
    let lo := max r.1 s.1
    let hi := min r.2 s.2
    let rest := if r.2 < s.2 then overlaps rs (s :: ss) else overlaps (r :: rs) ss
    if lo ≤ hi then (lo, hi) :: rest else rest
  termination_by rs ss => rs.length + ss.length

/-- The characters of both sets. -/
def inter (s t : CharSet) : CharSet :=
  ⟨(overlaps s.ranges.toList t.ranges.toList).toArray⟩

/-- What is left of the ranges of the first list outside those of the second, both rising. -/
def cut : List (Nat × Nat) → List (Nat × Nat) → List (Nat × Nat)
  | [], _ => []
  | rs, [] => rs
  | r :: rs, s :: ss =>
    if s.2 < r.1 then cut (r :: rs) ss
    else if r.2 < s.1 then r :: cut rs (s :: ss)
    else
      let before := if r.1 < s.1 then [(r.1, previous s.1)] else []
      if s.2 < r.2 then before ++ cut ((next s.2, r.2) :: rs) ss
      else before ++ cut rs (s :: ss)
  termination_by rs ss => rs.length + ss.length

/-- The characters of the first set that are not in the second. -/
def diff (s t : CharSet) : CharSet :=
  ⟨(cut s.ranges.toList t.ranges.toList).toArray⟩

/-- The characters of just one of the two sets. -/
def symmDiff (s t : CharSet) : CharSet := (s.union t).diff (s.inter t)

/-- Whether all members are ASCII characters. -/
def isAscii (s : CharSet) : Bool := s.ranges.toList.all fun r => r.2 < 0x80

/-! ### Written sets -/

/-- The value of a hexadecimal digit in upper case. -/
def hexValue (c : Char) : Nat :=
  if c.isDigit then c.toNat - '0'.toNat else c.toNat - 'A'.toNat + 10

/-- The number that hexadecimal digits stand for. -/
def hexNumber (digits : List Char) : Nat := digits.foldl (fun n c => n * 16 + hexValue c) 0

/-- The parts of a text between blanks and line feeds. `part` holds the part in hand, backwards. -/
def blankSeparated (part : List Char) : List Char → List (List Char)
  | [] => if part.isEmpty then [] else [part.reverse]
  | c :: cs =>
    if c = ' ' || c = '\n' then
      if part.isEmpty then blankSeparated [] cs else part.reverse :: blankSeparated [] cs
    else blankSeparated (c :: part) cs

/-- Reads a range such as `41-5A` or `C0`. -/
def parseRange (text : List Char) : Nat × Nat :=
  let first := hexNumber (text.takeWhile (· != '-'))
  match text.dropWhile (· != '-') with
  | [] => (first, first)
  | _ :: last => (first, hexNumber last)

/-- The set that is written as its ranges in hexadecimal, in rising order and separated by blanks. -/
def parse (text : String) : CharSet := ⟨((blankSeparated [] text.toList).map parseRange).toArray⟩

end CharSet

end Fieldwise
