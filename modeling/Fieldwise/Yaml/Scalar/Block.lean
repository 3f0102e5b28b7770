import Fieldwise.Yaml.Cursor

/-!
# Block scalars

A block scalar stands on lines of its own. Its header says whether line breaks are kept or folded, what
becomes of those at the end, and by how many columns the lines are indented if their beginning does not
show it.
-/

namespace Fieldwise.Yaml

/-- Whether the breaks of a block scalar are kept, or folded like those of other scalars. -/
inductive BlockStyle where
  | literal
  | folded
  deriving BEq, DecidableEq, Repr

/-- What becomes of the breaks at the end of a block scalar: the last line keeps its own, all are
dropped, or all are kept. -/
inductive Chomping where
  | clip
  | strip
  | keep
  deriving BEq, DecidableEq, Repr

/-- The sign of a chomping in a header. -/
def chomping? : Char → Option Chomping
  | '-' => some .strip
  | '+' => some .keep
  | _ => none

/-- The number of columns that a digit in a header gives. -/
def indentDigit? (c : Char) : Option Nat :=
  if c.isDigit then some (c.toNat - '0'.toNat) else none

/-- The header of a block scalar. -/
structure BlockHeader where
  chomping : Chomping
  indent : Option Nat

/-- Reads the two parts of a header, which may come in either order. The first of them is refused if
it is the digit 0. -/
def readHeader (c : Cursor) : Option (BlockHeader × Cursor) := do
  match c.next? with
  | none => some (⟨.clip, none⟩, c)
  | some x =>
    match chomping? x with
    | some chomping =>
      let c := c.skip 1
      match c.next?.bind indentDigit? with
      | some 0 => none
      | some n => some (⟨chomping, some n⟩, c.skip 1)
      | none => some (⟨chomping, none⟩, c)
    | none =>
      match indentDigit? x with
      | some 0 => none
      | some n =>
        let c := c.skip 1
        match c.next?.bind chomping? with
        | some chomping => some (⟨chomping, some n⟩, c.skip 1)
        | none => some (⟨.clip, some n⟩, c)
      | none => some (⟨.clip, none⟩, c)

/-- Steps over what may follow a header, with the end of its line. -/
def skipHeaderEnd (c : Cursor) : Option Cursor :=
  let c := c.skipWhile isBlank
  let c := if c.isAt '#' then c.skipToLineEnd else c
  if c.atLineEnd then some c.skipLine else none

/-- Steps over blanks up to a column, without end if there is none. -/
def skipIndent (c : Cursor) (indent : Option Nat) : Cursor :=
  let blanks := (c.rest.takeWhile (· == ' ')).length
  c.skip (match indent with
    | none => blanks
    | some n => min blanks (n - c.column))

theorem length_skipIndent_le (c : Cursor) (indent : Option Nat) :
    (skipIndent c indent).rest.length ≤ c.rest.length :=
  length_skip_le c _

/-- Reads breaks and the indentation around them, up to a column if it is known. Also yields the
greatest column that was reached. A tab in the place of indentation is refused. -/
def readBlockBreaks (indent : Option Nat) (greatest : Nat) (c : Cursor) :
    Option (List Char × Nat × Cursor) :=
  let c' := skipIndent c indent
  let greatest := max greatest c'.column
  match _h : c'.rest with
  | [] => some ([], greatest, c')
  | x :: _ =>
    if x = '\t' ∧ indent.all (c'.column < ·) then none
    else if isBreak x then
      (readBlockBreaks indent greatest c'.skipLine).map fun (breaks, r) => (breakValue x :: breaks, r)
    else some ([], greatest, c')
  termination_by c.rest.length
  decreasing_by
    refine Nat.lt_of_lt_of_le (length_skipLine_lt ?_) (length_skip_le _ _)
    exact List.ne_nil_of_mem (_h ▸ List.mem_cons_self)

theorem length_readBlockBreaks_le {indent : Option Nat} {greatest g : Nat} {c c' : Cursor}
    {breaks : List Char} (h : readBlockBreaks indent greatest c = some (breaks, g, c')) :
    c'.rest.length ≤ c.rest.length := by
  fun_induction readBlockBreaks indent greatest c generalizing breaks g <;>
    grind [Option.map_eq_some_iff, length_skipIndent_le, length_skipLine_le]

/-- The breaks between two lines of a block scalar: `own` ends the first of them, `more` are empty
lines. In the folded style the first break becomes a blank, or is dropped if there are empty lines,
unless one of the two lines begins with a blank. -/
def joinLines (style : BlockStyle) (blank : Bool) (own more : List Char) : List Char :=
  if style = .folded ∧ own = ['\n'] ∧ !blank then if more.isEmpty then [' '] else more
  else own ++ more

/-- A line with the break that ends it is not empty. -/
theorem length_skipLine_skip_lt {c : Cursor} (h : c.rest ≠ []) :
    (c.skip (c.rest.takeWhile fun x => !isBreak x).length).skipLine.rest.length <
      c.rest.length := by
  by_cases hl : (c.rest.takeWhile fun x => !isBreak x).length = 0
  · have hs : c.skip 0 = c := by simp [Cursor.skip]
    rw [hl, hs]
    exact length_skipLine_lt h
  · exact Nat.lt_of_le_of_lt (length_skipLine_le _) (length_skip_lt h (Nat.pos_of_ne_zero hl))

/-- Reads the lines of a block scalar, from the first character of a line on. `own` and `more` are the
breaks before it, and `blank` tells whether the line before began with a blank. -/
def readLines (style : BlockStyle) (chomping : Chomping) (indent : Nat) (own more : List Char)
    (blank : Bool) (c : Cursor) : Option (List Char × Cursor) :=
  if _hc : c.column = indent ∧ c.rest ≠ [] then
    let begins := c.rest.head?.any isBlank
    let line := c.rest.takeWhile fun x => !isBreak x
    let after := c.skip line.length
    let own' := (after.next?.map breakValue).toList
    match _hb : readBlockBreaks (some indent) 0 after.skipLine with
    | none => none
    | some (more', _, next) =>
      (readLines style chomping indent own' more' begins next).map fun (text, c) =>
        (joinLines style (blank || begins) own more ++ line ++ text, c)
  else
    some ((if chomping = .strip then [] else own) ++ (if chomping = .keep then more else []), c)
  termination_by c.rest.length
  decreasing_by
    exact Nat.lt_of_le_of_lt (length_readBlockBreaks_le _hb) (length_skipLine_skip_lt _hc.2)

/-- Reads a block scalar, after its first character. `outer` is the number of columns by which it is
indented at the least. -/
def readBlock (style : BlockStyle) (outer : Nat) (c : Cursor) : Option (List Char × Cursor) := do
  let (header, c) ← readHeader c
  let c ← skipHeaderEnd c
  let fixed := header.indent.map (· + (outer - 1))
  let (breaks, greatest, c) ← readBlockBreaks fixed 0 c
  let indent := fixed.getD (max greatest (max outer 1))
  readLines style header.chomping indent [] breaks false c

end Fieldwise.Yaml
