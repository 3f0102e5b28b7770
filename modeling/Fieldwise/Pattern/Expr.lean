import Fieldwise.Unicode.CharSet

/-!
# What a pattern means

`Expr` is a pattern without the accidents of its writing: flags, escapes and the spelling of classes
are gone. Expressions are put together by functions that keep them simple (`Expr.ofSet`,
`Expr.repetition`, `Expr.sequence`, `Expr.choice`), so that two spellings of one thing become equal
where that can be seen locally.
-/

namespace Fieldwise.Pattern

/-- The assertions about a place in a text. Lines end at line feeds, or also at carriage returns.
Words are made of word characters of all scripts, or of ASCII only. -/
inductive Look where
  | textStart
  | textEnd
  | lineStart (crlf : Bool)
  | lineEnd (crlf : Bool)
  | wordBoundary (ascii : Bool)
  | notWordBoundary (ascii : Bool)
  | wordStart (ascii : Bool)
  | wordEnd (ascii : Bool)
  | wordStartHalf (ascii : Bool)
  | wordEndHalf (ascii : Bool)
  deriving BEq, DecidableEq, Repr, Inhabited

/-- A regular expression with capture groups. A class also tells whether it was written where
Unicode is switched off. A repetition without a greatest count has none; a greedy one prefers more
copies, a lazy one fewer. The branches of an alternation are tried in order. -/
inductive Expr where
  | empty
  | literal (text : List Char)
  | chars (ascii : Bool) (set : CharSet)
  | look (kind : Look)
  | repeated (least : Nat) (greatest : Option Nat) (greedy : Bool) (sub : Expr)
  | capture (index : Nat) (sub : Expr)
  | concat (items : List Expr)
  | alternation (branches : List Expr)
  deriving Inhabited

namespace Expr

/-- The expression that matches nothing. -/
def never : Expr := .chars true .empty

mutual

/-- Whether two expressions are built in the same way. -/
def same : Expr → Expr → Bool
  | .empty, .empty => true
  | .literal a, .literal b => a == b
  | .chars x s, .chars y t => x == y && s == t
  | .look a, .look b => a == b
  | .repeated l g y a, .repeated l' g' y' b => l == l' && g == g' && y == y' && same a b
  | .capture i a, .capture j b => i == j && same a b
  | .concat as, .concat bs => sameAll as bs
  | .alternation as, .alternation bs => sameAll as bs
  | _, _ => false

/-- Whether two lists of expressions are built in the same way, place by place. -/
def sameAll : List Expr → List Expr → Bool
  | [], [] => true
  | a :: as, b :: bs => same a b && sameAll as bs
  | _, _ => false

end

mutual

/-- The number of nodes of an expression. -/
def size : Expr → Nat
  | .repeated _ _ _ sub | .capture _ sub => sub.size + 1
  | .concat items | .alternation items => sizes items + 1
  | _ => 1

/-- The number of nodes of several expressions. -/
def sizes : List Expr → Nat
  | [] => 0
  | e :: es => e.size + sizes es

end

/-! ### Lengths -/

/-- The length of a code point in UTF-8. -/
def width (c : Nat) : Nat :=
  if c < 0x80 then 1 else if c < 0x800 then 2 else if c < 0x10000 then 3 else 4

/-- The length of a text in UTF-8. -/
def textWidth (text : List Char) : Nat := text.foldr (fun c n => width c.toNat + n) 0

mutual

/-- The least number of bytes that a match takes in UTF-8. It is unknown if some part matches
nothing at all. -/
def minWidth : Expr → Option Nat
  | .empty | .look _ => some 0
  | .literal text => some (textWidth text)
  | .chars _ set => set.ranges[0]?.map fun r => width r.1
  | .repeated least _ _ sub => sub.minWidth.map (· * least)
  | .capture _ sub => sub.minWidth
  | .concat items => minWidthSum items
  | .alternation branches => minWidthLeast branches

/-- The least width of expressions after each other. -/
def minWidthSum : List Expr → Option Nat
  | [] => some 0
  | e :: es => do return (← e.minWidth) + (← minWidthSum es)

/-- The least width of one of several expressions. -/
def minWidthLeast : List Expr → Option Nat
  | [] => none
  | [e] => e.minWidth
  | e :: es => do return min (← e.minWidth) (← minWidthLeast es)

end

mutual

/-- The greatest number of bytes that a match takes in UTF-8. It is unknown if there is none, or if
some part matches nothing at all. -/
def maxWidth : Expr → Option Nat
  | .empty | .look _ => some 0
  | .literal text => some (textWidth text)
  | .chars _ set => set.ranges.back?.map fun r => width r.2
  | .repeated _ greatest _ sub => do return (← greatest) * (← sub.maxWidth)
  | .capture _ sub => sub.maxWidth
  | .concat items => maxWidthSum items
  | .alternation branches => maxWidthGreatest branches

/-- The greatest width of expressions after each other. -/
def maxWidthSum : List Expr → Option Nat
  | [] => some 0
  | e :: es => do return (← e.maxWidth) + (← maxWidthSum es)

/-- The greatest width of one of several expressions. -/
def maxWidthGreatest : List Expr → Option Nat
  | [] => none
  | [e] => e.maxWidth
  | e :: es => do return max (← e.maxWidth) (← maxWidthGreatest es)

end

/-- Whether a match takes no characters, whatever the text. -/
def isVoid (e : Expr) : Bool := e.maxWidth == some 0

/-- Whether every match is known to take a character. -/
def consumes (e : Expr) : Bool := e.minWidth.any (0 < ·)

mutual

/-- Whether a match can be seen to begin at the start of the text only. -/
def isAnchored : Expr → Bool
  | .look kind => kind == .textStart
  | .repeated least _ _ sub => decide (0 < least) && sub.isAnchored
  | .capture _ sub => sub.isAnchored
  | .concat items => anySoonAnchored items
  | .alternation branches => allAnchored branches
  | .empty | .literal _ | .chars .. => false

/-- Whether one of the expressions up to the first that takes characters is anchored. -/
def anySoonAnchored : List Expr → Bool
  | [] => false
  | e :: es => e.isAnchored || (e.isVoid && anySoonAnchored es)

/-- Whether all of the expressions are anchored. -/
def allAnchored : List Expr → Bool
  | [] => true
  | e :: es => e.isAnchored && allAnchored es

end

mutual

/-- The numbers of the capture groups in an expression. -/
def captureIndexes : Expr → List Nat
  | .empty | .literal _ | .chars .. | .look _ => []
  | .repeated _ _ _ sub => sub.captureIndexes
  | .capture index sub => index :: sub.captureIndexes
  | .concat items => captureIndexesAll items
  | .alternation branches => captureIndexesAll branches

/-- The numbers of the capture groups in several expressions. -/
def captureIndexesAll : List Expr → List Nat
  | [] => []
  | e :: es => e.captureIndexes ++ captureIndexesAll es

end

/-! ### Putting expressions together -/

/-- One character of a set. A set of one character is that character. -/
def ofSet (ascii : Bool) (set : CharSet) : Expr :=
  if set.isEmpty then never
  else
    match set.single? with
    | some c => .literal [c]
    | none => .chars ascii set

/-- Copies of an expression. More than one copy of what takes no characters says nothing new. -/
def repetition (least : Nat) (greatest : Option Nat) (greedy : Bool) (sub : Expr) : Expr :=
  let least' := if sub.isVoid then min least 1 else least
  let greatest' := if sub.isVoid then some ((greatest.map (min · 1)).getD 1) else greatest
  if least' = 0 ∧ greatest' = some 0 then .empty
  else if least' = 1 ∧ greatest' = some 1 then sub
  else .repeated least' greatest' greedy sub

/-- Adds an expression to the front of a sequence. Literals that meet become one. -/
def consItem (e : Expr) (items : List Expr) : List Expr :=
  match e, items with
  | .empty, _ => items
  | .literal a, .literal b :: rest => .literal (a ++ b) :: rest
  | _, _ => e :: items

/-- The items of a sequence, with those of inner sequences in their place. -/
def flatItems : List Expr → List Expr
  | [] => []
  | .concat inner :: rest => inner.foldr consItem (flatItems rest)
  | e :: rest => consItem e (flatItems rest)

/-- Expressions after each other. -/
def sequence (items : List Expr) : Expr :=
  match flatItems items with
  | [] => .empty
  | [e] => e
  | es => .concat es

/-- The branches of an alternation, with those of inner alternations in their place. -/
def flatBranches : List Expr → List Expr
  | [] => []
  | .alternation inner :: rest => inner ++ flatBranches rest
  | e :: rest => e :: flatBranches rest

/-- The set of an expression that matches one character, whichever it is. A class that was written
where Unicode is switched off has ASCII members only. -/
def charSet? : Expr → Option CharSet
  | .literal [c] => some (.singleton c)
  | .chars _ set => some set
  | _ => none

/-- The sets of expressions that match one character each. -/
def charSets? : List Expr → Option (List CharSet)
  | [] => some []
  | e :: es => do return (← e.charSet?) :: (← charSets? es)

/-- The number of places from the start at which two sequences are built in the same way. -/
def commonLength : List Expr → List Expr → Nat
  | a :: as, b :: bs => if a.same b then commonLength as bs + 1 else 0
  | _, _ => 0

/-- The items of a sequence. -/
def items? : Expr → Option (List Expr)
  | .concat items => some items
  | _ => none

/-- What all branches begin with, if all of them are sequences that begin alike, and the rests of the
branches. -/
def factor? (branches : List Expr) : Option (List Expr × List (List Expr)) := do
  match ← branches.mapM items? with
  | first :: second :: rest =>
    let n := (second :: rest).foldl (fun n b => min n (commonLength (first.take n) b)) first.length
    if n = 0 then none else some (first.take n, (first :: second :: rest).map (·.drop n))
  | _ => none

/-- Expressions of which one matches, in the order of preference. Single characters become one class,
and a common beginning is taken out, as often as `fuel` allows. -/
def choiceFrom : (fuel : Nat) → List Expr → Expr
  | 0, branches => .alternation branches
  | fuel + 1, branches =>
    match flatBranches branches with
    | [] => never
    | [e] => e
    | es =>
      match charSets? es with
      | some sets => ofSet false (.ofRanges (sets.flatMap (·.ranges.toList)))
      | none =>
        match factor? es with
        | some (start, rests) => sequence (start ++ [choiceFrom fuel (rests.map sequence)])
        | none => .alternation es

/-- Expressions of which one matches, in the order of preference. Each common beginning that is taken
out makes the branches smaller, so that their size bounds how often that happens. -/
def choice (branches : List Expr) : Expr := choiceFrom (sizes branches + 1) branches

end Expr

end Fieldwise.Pattern
