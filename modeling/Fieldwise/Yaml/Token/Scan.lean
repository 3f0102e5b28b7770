import Fieldwise.Yaml.Property
import Fieldwise.Yaml.Scalar.Block
import Fieldwise.Yaml.Scalar.Plain
import Fieldwise.Yaml.Scalar.Quoted

/-!
# Splitting a text into tokens

A `Scan` is what is known of a text up to a place: its tokens so far, the block collections around the
place, and where a key may have begun whose colon is still to come. `Token.scan` yields the tokens of
a text. If the text is ill-formed, these are the tokens before the fault of which nothing can change
any more, and they do not end with the end of the text.
-/

namespace Fieldwise.Yaml

/-- A place where a key may have begun: the number of tokens before it, and whether only a key can
stand there. -/
structure KeyStart where
  required : Bool
  number : Nat
  index : Nat
  mark : Mark

/-- Whether a key that began there would have come to its end: a key stays on one line and within 1024
characters. -/
def KeyStart.isStale (k : KeyStart) (c : Cursor) : Bool :=
  k.mark.line < c.line || k.index + 1024 < c.index

/-- What is known of a text up to a place. -/
structure Scan where
  /-- The place. -/
  cursor : Cursor
  /-- The tokens before it, the last one first. -/
  tokens : List Token
  /-- The number of tokens. -/
  count : Nat
  /-- For each block collection around the place, one more than its column; the innermost first. -/
  levels : List Nat
  /-- Where a key of the innermost collection may have begun. -/
  key : Option KeyStart
  /-- Where keys may have begun that contain the flow collections around the place, the innermost
  first. -/
  outerKeys : List (Option KeyStart)
  /-- Whether a key may begin at the place. -/
  keyAllowed : Bool

namespace Scan

/-- The beginning of a text. -/
def start (text : List Char) : Scan := ⟨.start text, [], 0, [], none, [], true⟩

/-- Whether a flow collection is around the place. -/
def inFlow (s : Scan) : Bool := !s.outerKeys.isEmpty

/-- One more than the column of the innermost block collection; 0 outside of all. -/
def level (s : Scan) : Nat := s.levels.headD 0

/-! ### Keys whose colon is still to come -/

/-- Forgets a place where a key may have begun if the key would have come to its end, unless only a
key can stand there. -/
def dropStale (c : Cursor) : Option KeyStart → Option (Option KeyStart)
  | none => some none
  | some k => if k.isStale c then (if k.required then none else some none) else some (some k)

/-- Forgets all places where a key may have begun that would have come to its end. -/
def dropStaleKeys (s : Scan) : Option Scan := do
  let key ← dropStale s.cursor s.key
  let outerKeys ← s.outerKeys.mapM (dropStale s.cursor)
  return { s with key, outerKeys }

/-- Gives up that a key of the innermost collection has begun. -/
def dropKey (s : Scan) : Option Scan :=
  if s.key.any (·.required) then none else some { s with key := none }

/-- Takes the place for one where a key may begin, if it may. -/
def markKey (s : Scan) : Option Scan :=
  if s.keyAllowed then do
    let s ← s.dropKey
    let required := !s.inFlow && s.level == s.cursor.column + 1
    return { s with key := some ⟨required, s.count, s.cursor.index, s.cursor.mark⟩ }
  else some s

/-- The number of tokens of which nothing can change any more: those before the first place where a
key may have begun. -/
def settled (s : Scan) : Nat :=
  (s.key :: s.outerKeys).foldl (fun n k => (k.map (·.number)).elim n (min n)) s.count

/-- The tokens of which nothing can change any more. -/
def available (s : Scan) : List Token := (s.tokens.drop (s.count - s.settled)).reverse

/-! ### Adding tokens -/

/-- Adds a token. -/
def push (s : Scan) (t : Token) : Scan := { s with tokens := t :: s.tokens, count := s.count + 1 }

/-- Adds a token that takes no place. -/
def pushAt (s : Scan) (kind : TokenKind) (mark : Mark) : Scan := s.push ⟨kind, mark, mark⟩

/-- Adds a token after so many others. -/
def insertAt (s : Scan) (number : Nat) (t : Token) : Scan :=
  let (after, before) := s.tokens.splitAt (s.count - number)
  { s with tokens := after ++ t :: before, count := s.count + 1 }

/-- Adds a token that reaches from the place to another one, and goes there. -/
def advance (s : Scan) (kind : TokenKind) (c : Cursor) : Scan :=
  { s.push ⟨kind, s.cursor.mark, c.mark⟩ with cursor := c }

/-- Adds a token of so many characters. -/
def take (s : Scan) (kind : TokenKind) (n : Nat) : Scan := s.advance kind (s.cursor.skip n)

/-- Ends the block collections that stand right of a column, of which the level is given. -/
def closeBlocks (s : Scan) (level : Nat) : Scan :=
  if s.inFlow then s
  else
    let closed := s.levels.takeWhile fun l => decide (level < l)
    let s := closed.foldl (fun s _ => s.pushAt .blockEnd s.cursor.mark) s
    { s with levels := s.levels.drop closed.length }

/-- Begins a block collection at a place, after so many tokens, unless one stands there already. -/
def openBlock (s : Scan) (kind : TokenKind) (number : Nat) (mark : Mark) : Scan :=
  if !s.inFlow && s.level ≤ mark.column then
    let s := s.insertAt number ⟨kind, mark, mark⟩
    { s with levels := (mark.column + 1) :: s.levels }
  else s

/-! ### The tokens -/

/-- Ends the text. -/
def takeEnd (s : Scan) : Option Scan := do
  let c := s.cursor
  let s := { s with cursor := if c.column = 0 then c else { c with line := c.line + 1, column := 0 } }
  let s ← (s.closeBlocks 0).dropKey
  return { s.pushAt .streamEnd s.cursor.mark with keyAllowed := false }

/-- A directive. -/
def takeDirective (s : Scan) : Option Scan := do
  let s ← (s.closeBlocks 0).dropKey
  let (kind, c) ← readDirective (s.cursor.skip 1)
  return { s.advance kind c with keyAllowed := false }

/-- The delimiter of a document. -/
def takeDelimiter (s : Scan) (kind : TokenKind) : Option Scan := do
  let s ← (s.closeBlocks 0).dropKey
  return { s.take kind 3 with keyAllowed := false }

/-- The beginning of a flow collection. -/
def takeFlowStart (s : Scan) (kind : TokenKind) : Option Scan := do
  let s ← s.markKey
  return { s.take kind 1 with key := none, outerKeys := s.key :: s.outerKeys, keyAllowed := true }

/-- The end of a flow collection. -/
def takeFlowEnd (s : Scan) (kind : TokenKind) : Option Scan := do
  let s ← s.dropKey
  let s := match s.outerKeys with
    | [] => s
    | key :: outerKeys => { s with key, outerKeys }
  return { s.take kind 1 with keyAllowed := false }

/-- The comma between entries of a flow collection. -/
def takeFlowEntry (s : Scan) : Option Scan := do
  let s ← s.dropKey
  return { s.take .flowEntry 1 with keyAllowed := true }

/-- The hyphen before an entry of a block sequence. -/
def takeBlockEntry (s : Scan) : Option Scan := do
  if !s.inFlow && !s.keyAllowed then none
  let s ← (s.openBlock .blockSequenceStart s.count s.cursor.mark).dropKey
  return { s.take .blockEntry 1 with keyAllowed := true }

/-- The question mark before a key. -/
def takeKey (s : Scan) : Option Scan := do
  if !s.inFlow && !s.keyAllowed then none
  let s ← (s.openBlock .blockMappingStart s.count s.cursor.mark).dropKey
  return { s.take .key 1 with keyAllowed := !s.inFlow }

/-- The colon before a value. If a key may have begun before it, one has. -/
def takeValue (s : Scan) : Option Scan :=
  match s.key with
  | some k =>
    let s := s.insertAt k.number ⟨.key, k.mark, k.mark⟩
    let s := s.openBlock .blockMappingStart k.number k.mark
    some { s.take .value 1 with key := none, keyAllowed := false }
  | none =>
    if !s.inFlow && !s.keyAllowed then none
    else
      let s := s.openBlock .blockMappingStart s.count s.cursor.mark
      some { s.take .value 1 with keyAllowed := !s.inFlow }

/-- An anchor or an alias. -/
def takeName (s : Scan) (kind : String → TokenKind) : Option Scan := do
  let s ← s.markKey
  let (name, c) ← readName (s.cursor.skip 1)
  return { s.advance (kind name) c with keyAllowed := false }

/-- A tag. -/
def takeTag (s : Scan) : Option Scan := do
  let s ← s.markKey
  let (kind, c) ← readTag s.inFlow s.cursor
  return { s.advance kind c with keyAllowed := false }

/-- A block scalar. -/
def takeBlock (s : Scan) (style : BlockStyle) : Option Scan := do
  let s ← s.dropKey
  let (text, c) ← readBlock style s.level (s.cursor.skip 1)
  return { s.advance (.scalar text .quoted) c with keyAllowed := true }

/-- A quoted scalar. -/
def takeQuoted (s : Scan) (quote : Quote) : Option Scan := do
  let s ← s.markKey
  let (text, c) ← readQuoted quote (s.cursor.skip 1)
  return { s.advance (.scalar text .quoted) c with keyAllowed := false }

/-- A plain scalar. If spacing over the end of a line follows it, a key may begin after it. -/
def takePlain (s : Scan) : Option Scan := do
  let s ← s.markKey
  let p ← readPlain s.inFlow s.level ⟨[], false⟩ s.cursor
  return { s.advance (.scalar p.text .plain) p.after with keyAllowed := p.broken }

/-- Whether a plain scalar may begin with some characters. -/
def beginsPlain (flow : Bool) (c : Char) (rest : List Char) : Bool :=
  !(isSpacing c || "-?:,[]{}#&*!|>'\"%@`".toList.contains c) ||
    (c == '-' && !rest.head?.any isBlank) ||
    (!flow && (c == '?' || c == ':') && !endsWord rest)

/-- Adds the token that begins at the place. -/
def takeToken (s : Scan) : Option Scan :=
  match s.cursor.rest with
  | [] => s.takeEnd
  | c :: rest =>
    let first := s.cursor.column == 0
    let flow := s.inFlow
    if first && c == '%' then s.takeDirective
    else if first && c == '-' && atDelimiter s.cursor.rest then s.takeDelimiter .documentStart
    else if first && c == '.' && atDelimiter s.cursor.rest then s.takeDelimiter .documentEnd
    else if c == '[' then s.takeFlowStart .flowSequenceStart
    else if c == '{' then s.takeFlowStart .flowMappingStart
    else if c == ']' then s.takeFlowEnd .flowSequenceEnd
    else if c == '}' then s.takeFlowEnd .flowMappingEnd
    else if c == ',' then s.takeFlowEntry
    else if c == '-' && endsWord rest then s.takeBlockEntry
    else if c == '?' && (flow || endsWord rest) then s.takeKey
    else if c == ':' && (flow || endsWord rest) then s.takeValue
    else if c == '*' then s.takeName .alias
    else if c == '&' then s.takeName .anchor
    else if c == '!' then s.takeTag
    else if c == '|' && !flow then s.takeBlock .literal
    else if c == '>' && !flow then s.takeBlock .folded
    else if c == '\'' then s.takeQuoted .single
    else if c == '"' then s.takeQuoted .double
    else if beginsPlain flow c rest then s.takePlain
    else none

/-- Steps over a byte order mark at the beginning of the text, blanks and a comment. A tab may or may
not be a blank. -/
def skipBlanks (tabs : Bool) (c : Cursor) : Cursor :=
  let c := if c.index = 0 ∧ c.isAt '\uFEFF' then c.skip 1 else c
  let c := c.skipWhile fun x => x == ' ' || (tabs && x == '\t')
  if c.isAt '#' then c.skipToLineEnd else c

theorem length_skipBlanks_le (tabs : Bool) (c : Cursor) :
    (skipBlanks tabs c).rest.length ≤ c.rest.length := by
  grind [skipBlanks, Cursor.skipWhile, Cursor.skipToLineEnd, length_skip_le]

/-- Steps over blanks, comments and line breaks. After a line break outside of flow collections a key
may begin. Where one may, a tab is no blank. -/
def skipSpacing (flow keyAllowed : Bool) (c : Cursor) : Cursor × Bool :=
  let after := skipBlanks (flow || !keyAllowed) c
  if _h : after.atBreak then skipSpacing flow (keyAllowed || !flow) after.skipLine
  else (after, keyAllowed)
  termination_by c.rest.length
  decreasing_by
    refine Nat.lt_of_lt_of_le (length_skipLine_lt fun h => ?_) (length_skipBlanks_le _ c)
    have h : after.rest = [] := h
    simp [Cursor.atBreak, h] at _h

/-- Adds the next token, and the ends of block collections before it. -/
def step (s : Scan) : Option Scan := do
  let (cursor, keyAllowed) := skipSpacing s.inFlow s.keyAllowed s.cursor
  let s ← { s with cursor, keyAllowed }.dropStaleKeys
  let s ← (s.closeBlocks (s.cursor.column + 1)).takeToken
  s.dropStaleKeys

/-- Whether the text has come to its end. -/
def isDone (s : Scan) : Bool := s.tokens.head?.any fun t => t.kind == .streamEnd

/-- The tokens of a text, of which some have been found, in so many steps. -/
def run : (steps : Nat) → Scan → List Token
  | 0, s => s.available
  | steps + 1, s =>
    if s.isDone then s.tokens.reverse
    else
      match s.step with
      | none => s.available
      | some s => run steps s

end Scan

/-- The tokens of a text. A text with characters that are not allowed has none. -/
def Token.scan (text : List Char) : List Token :=
  if text.all isAllowed then Scan.run (text.length + 2) (.start text) else []

end Fieldwise.Yaml
