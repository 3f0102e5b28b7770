import Fieldwise.Pattern.Ast.Bracket
import Fieldwise.Pattern.Group

/-!
# From text to tree

`Ast.parse` takes the text of a pattern apart. Groups and alternations that are not closed yet are
kept on a stack, so that a pattern is read in one pass from left to right and the first fault is the
one that is reported.
-/

namespace Fieldwise.Pattern

/-- Items that follow each other, the last one first, and the offset where the first begins. -/
structure Sequence where
  start : Nat
  reversed : List Ast

/-- The items as one node that ends at an offset. -/
def Sequence.toAst (s : Sequence) (stop : Nat) : Ast :=
  match s.reversed with
  | [] => .empty ⟨s.start, stop⟩
  | [item] => item
  | items => .concat ⟨s.start, stop⟩ items.reverse

/-- What is open: a group, with what stood before it and the mode to go back to after it, or an
alternation, with its branches so far, the last one first. -/
inductive Layer where
  | group (span : Span) (kind : GroupKind) (before : Sequence) (verbose : Bool)
  | alternation (start : Nat) (branches : List Ast)

/-- What has been read of a pattern: the groups and alternations that are open, the items since the
last of them began, the number of capture groups so far, and the names of groups, each with the part
of the text where it was given. -/
structure Progress where
  stack : List Layer
  items : Sequence
  captures : Nat
  names : GroupNames
  nameSpans : List (GroupName × Span)

/-- Adds an item. -/
def Progress.push (p : Progress) (item : Ast) : Progress :=
  { p with items := ⟨p.items.start, item :: p.items.reversed⟩ }

/-! ### Groups -/

/-- The flag that a letter stands for. -/
def Flag.ofChar? : Char → Option Flag
  | 'i' => some .caseInsensitive
  | 'm' => some .multiLine
  | 's' => some .dotMatchesNewline
  | 'U' => some .swapGreed
  | 'u' => some .unicode
  | 'R' => some .crlf
  | 'x' => some .verbose
  | _ => none

/-- Reads flags up to a colon or a closing parenthesis, which stays unread. `seen` holds the items
so far with their spans, the last one first. -/
def readFlags (seen : List (FlagItem × Span)) (c : Cursor) :
    Except Fault (List FlagItem × Cursor) :=
  match _h : c.rest with
  | [] => fault .flagUnfinished c.point
  | x :: _ =>
    if x == ':' || x == ')' then
      match seen with
      | (.negation, span) :: _ => fault .flagDanglingNegation span
      | _ => .ok (seen.reverse.map Prod.fst, c)
    else
      let item? := if x == '-' then some .negation else (Flag.ofChar? x).map .flag
      match item? with
      | none => fault .flagUnrecognized c.here
      | some item =>
        match seen.find? (fun e => e.1 == item) with
        | some (_, first) =>
          fault (if x == '-' then .flagRepeatedNegation first else .flagDuplicate first) c.here
        | none => readFlags ((item, c.here) :: seen) c.bump
  termination_by c.rest.length
  decreasing_by exact Cursor.length_bump _h

/-- Reads the name of a group, up to and with the angle bracket after it. -/
def readGroupName (c : Cursor) : Except Fault ((GroupName × Span) × Cursor) :=
  match c.rest with
  | [] => fault .groupNameUnfinished c.point
  | first :: rest =>
    if first == '>' then fault .groupNameEmpty c.point
    else if !isNameStart first then fault .groupNameInvalid c.here
    else
      let name := first :: rest.takeWhile isNameRest
      let stop := c.pos + name.length
      match rest.dropWhile isNameRest with
      | [] => fault .groupNameUnfinished (.point stop)
      | x :: after =>
        if x == '>' then
          if h : isGroupName name = true then
            .ok ((⟨name, h⟩, ⟨c.pos, stop⟩), { c with pos := stop + 1, rest := after })
          else fault .groupNameInvalid ⟨c.pos, stop⟩
        else fault .groupNameInvalid (.char stop)

/-- Opens a group: what follows is read as its contents. -/
def Progress.openGroup (p : Progress) (span : Span) (kind : GroupKind) (before after : Cursor) :
    Progress :=
  { p with
    stack := .group span kind p.items before.verbose :: p.stack
    items := ⟨after.pos, []⟩ }

/-- Reads what follows the question mark of a group with flags: flags that are set from here on, or
the flags of a group that does not capture. `mark` is the span before the question mark. -/
def readFlagGroup (p : Progress) (start : Cursor) (mark : Span) (c : Cursor) :
    Except Fault (Progress × Cursor) :=
  if c.atEnd then fault .groupUnclosed start.here
  else do
    let (flags, c) ← readFlags [] c
    let closes := c.peek? == some ')'
    let c := c.bump
    let verbose := (flagState .verbose true flags).getD start.verbose
    if closes then
      if flags.isEmpty then fault .repetitionMissing mark
      else .ok (p.push (.flags (c.since start.pos) flags), { c with verbose })
    else .ok (p.openGroup start.here (.flagged flags) start c, { c with verbose })

/-- Reads what begins with an opening parenthesis: a group, or the setting of flags. -/
def readGroup (p : Progress) (start : Cursor) : Except Fault (Progress × Cursor) :=
  let c := start.bumpSpaced
  let lookAround := ["?=", "?!", "?<=", "?<!"].findSome? fun s => c.skip? s.toList
  match lookAround with
  | some c => fault .lookAround (c.since start.pos)
  | none =>
    match (c.skip? "?P<".toList).or (c.skip? "?<".toList) with
    | some c => do
      let ((name, span), c) ← readGroupName c
      let index := p.captures + 1
      if h : name ∈ p.names.entries.map Prod.fst then
        fault (.groupNameDuplicate ((p.nameSpans.lookup name).getD span)) span
      else
        let p := { p with
          captures := index
          names := p.names.insert name index h
          nameSpans := (name, span) :: p.nameSpans }
        .ok (p.openGroup start.here (.capture index) start c, c)
    | none =>
      match c.rest with
      | '?' :: _ => readFlagGroup p start c.point c.bump
      | _ =>
        let index := p.captures + 1
        .ok ({ p with captures := index }.openGroup start.here (.capture index) start c, c)

/-- Closes the innermost group, at the closing parenthesis that comes next. -/
def closeGroup (p : Progress) (c : Cursor) : Except Fault (Progress × Cursor) :=
  let close (span : Span) kind (before : Sequence) verbose stack (contents : Ast) :
      Except Fault (Progress × Cursor) :=
    let after := c.bump
    let group := .group ⟨span.start, after.pos⟩ kind contents
    .ok ({ p with stack, items := before }.push group, { after with verbose })
  let last := p.items.toAst c.pos
  match p.stack with
  | .group span kind before verbose :: rest => close span kind before verbose rest last
  | .alternation start branches :: .group span kind before verbose :: rest =>
    close span kind before verbose rest (.alternation ⟨start, c.pos⟩ (last :: branches).reverse)
  | _ => fault .groupUnopened c.here

/-- Ends a branch of an alternation, at the bar that comes next. -/
def nextBranch (p : Progress) (c : Cursor) : Progress × Cursor :=
  let branch := p.items.toAst c.pos
  let stack := match p.stack with
    | .alternation start branches :: rest => .alternation start (branch :: branches) :: rest
    | stack => .alternation p.items.start [branch] :: stack
  ({ p with stack, items := ⟨c.bump.pos, []⟩ }, c.bump)

/-! ### Repetitions -/

/-- Takes off the item that a repetition operator applies to. -/
def Progress.pop? (p : Progress) : Option (Ast × Progress) :=
  match p.items.reversed with
  | [] | .empty _ :: _ | .flags _ _ :: _ => none
  | item :: rest => some (item, { p with items := ⟨p.items.start, rest⟩ })

/-- Reads a question mark, a star or a plus, with the question mark that makes it lazy. -/
def readRepetition (p : Progress) (least : Nat) (greatest : Option Nat) (c : Cursor) :
    Except Fault (Progress × Cursor) :=
  match p.pop? with
  | none => fault .repetitionMissing c.point
  | some (item, p) =>
    let c := c.bump
    let lazy := c.peek? == some '?'
    let c := if lazy then c.bump else c
    .ok (p.push (.repetition ⟨item.span.start, c.pos⟩ least greatest (!lazy) item), c)

/-- Reads digits, in verbose mode with blanks between them. -/
def readDigits (digits : List Nat) (c : Cursor) : List Nat × Cursor :=
  match _h : c.rest with
  | [] => (digits.reverse, c)
  | x :: _ =>
    if x.isDigit then readDigits ((x.toNat - '0'.toNat) :: digits) c.bumpSpaced
    else (digits.reverse, c)
  termination_by c.rest.length
  decreasing_by exact Cursor.length_bumpSpaced _h

/-- Steps over white space, in any mode. -/
def skipWhite (c : Cursor) : Cursor :=
  { c with
    pos := c.pos + (c.rest.takeWhile isSpace).length
    rest := c.rest.dropWhile isSpace }

/-- Steps over white space, and in verbose mode over the comments after it. -/
def skipWhiteSpaced (c : Cursor) : Cursor :=
  match c.rest with
  | x :: _ => if isSpace x then (skipWhite c).skipSpace else c
  | [] => c

/-- Reads a count, with white space around it. The count itself may be at fault, which is for the
caller to report. -/
def readCount (c : Cursor) : Except Fault Nat × Cursor :=
  let c := skipWhite c
  let start := c.pos
  let (digits, c) := readDigits [] c
  let span := c.since start
  let n := digits.foldl (fun n d => n * 10 + d) 0
  let count :=
    if digits.isEmpty then fault .countEmpty span
    else if n < 1 <<< 32 then .ok n
    else fault .countTooLarge span
  (count, skipWhiteSpaced c)

/-- Reads the least and the greatest count of a repetition, up to the closing brace. `start` is
where its opening brace stands. -/
def readCounts (start : Nat) (c : Cursor) : Except Fault ((Nat × Option Nat) × Cursor) :=
  if c.atEnd then fault .countUnclosed (c.since start)
  else
    let (least, c) := readCount c
    if c.atEnd then fault .countUnclosed (c.since start)
    else if c.peek? == some ',' then
      let c := c.bumpSpaced
      if c.atEnd then fault .countUnclosed (c.since start)
      else if c.peek? == some '}' then do
        let n ← least
        .ok ((n, none), c)
      else do
        let n ← least
        let (greatest, c) := readCount c
        let m ← greatest
        .ok ((n, some m), c)
    else do
      let n ← least
      .ok ((n, some n), c)

/-- Reads a repetition with counts. -/
def readCounted (p : Progress) (brace : Cursor) : Except Fault (Progress × Cursor) :=
  match p.pop? with
  | none => fault .repetitionMissing brace.point
  | some (item, p) => do
    let ((least, greatest), c) ← readCounts brace.pos brace.bumpSpaced
    if c.peek? != some '}' then fault .countUnclosed (c.since brace.pos)
    else
      let c := c.bumpSpaced
      let lazy := c.peek? == some '?'
      let c := if lazy then c.bump else c
      if greatest.all (least ≤ ·) then
        .ok (p.push (.repetition ⟨item.span.start, c.pos⟩ least greatest (!lazy) item), c)
      else fault .countInvalid (c.since brace.pos)

/-! ### The whole pattern -/

/-- Reads one part of a pattern. The rest must not be empty. -/
def readPart (p : Progress) (c : Cursor) : Except Fault (Progress × Cursor) :=
  match c.rest with
  | '(' :: _ => readGroup p c
  | ')' :: _ => closeGroup p c
  | '|' :: _ => .ok (nextBranch p c)
  | '[' :: _ => do
    let (set, c) ← readBracketed c
    .ok (p.push set, c)
  | '?' :: _ => readRepetition p 0 (some 1) c
  | '*' :: _ => readRepetition p 0 none c
  | '+' :: _ => readRepetition p 1 none c
  | '{' :: _ => readCounted p c
  | _ => do
    let (item, c) ← readPrimitive c
    .ok (p.push item.toAst, c)

/-- Reads the rest of a pattern, part by part. -/
def readParts (p : Progress) (c : Cursor) : Except Fault (Progress × Cursor) :=
  let c' := c.skipSpace
  if c'.atEnd then .ok (p, c')
  else
    match readPart p c' with
    | .error f => .error f
    | .ok (p, after) =>
      if _h : after.rest.length < c.rest.length then readParts p after else .ok (p, after)
  termination_by c.rest.length

/-- The tree of a pattern that has been read to its end. A group that is still open is a fault. -/
def Progress.finish (p : Progress) (stop : Nat) : Except Fault Ast :=
  let last := p.items.toAst stop
  match p.stack with
  | [] => .ok last
  | .group span .. :: _ => fault .groupUnclosed span
  | .alternation start branches :: rest =>
    match rest with
    | .group span .. :: _ => fault .groupUnclosed span
    | _ => .ok (.alternation ⟨start, stop⟩ (last :: branches).reverse)

/-- The tree of a pattern and the names of its groups. -/
def Ast.parse (pattern : String) : Except Fault (Ast × GroupNames) := do
  let start : Progress := ⟨[], ⟨0, []⟩, 0, .empty, []⟩
  let (p, c) ← readParts start ⟨0, pattern.toList, false⟩
  let tree ← p.finish c.pos
  .ok (tree, p.names)

end Fieldwise.Pattern
