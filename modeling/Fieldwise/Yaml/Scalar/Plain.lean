import Fieldwise.Yaml.Scalar.Gap

/-!
# Plain scalars

A plain scalar is written without quotes. It ends before a colon or a number sign that spacing sets
off, before a line that is not indented enough, and, within a flow collection, before the characters
that structure it.
-/

namespace Fieldwise.Yaml

/-- The characters that structure flow collections. -/
def isFlowIndicator (c : Char) : Bool :=
  c == ',' || c == '[' || c == ']' || c == '{' || c == '}'

/-- The word of a plain scalar that comes next. Within a flow collection a colon may not stand before
a character that structures it. -/
def plainWord (flow : Bool) : List Char → Option (List Char)
  | [] => some []
  | c :: cs =>
    if isSpacing c then some []
    else if flow && c == ':' && cs.head?.any fun x => isFlowIndicator x || x == '?' then none
    else if (c == ':' && endsWord cs) || (flow && isFlowIndicator c) then some []
    else (plainWord flow cs).map (c :: ·)

/-- A plain scalar that has been read: its text, whether spacing over the end of a line follows it, and
what comes after that. -/
structure Plain where
  text : List Char
  broken : Bool
  after : Cursor

/-- Reads a plain scalar, or the rest of it after a gap. Its lines are indented by so many columns. -/
def readPlain (flow : Bool) (indent : Nat) (gap : Gap) (c : Cursor) : Option Plain :=
  if (c.column = 0 ∧ atDelimiter c.rest) ∨ c.isAt '#' then some ⟨[], gap.broken, c⟩
  else
    match plainWord flow c.rest with
    | none => none
    | some word =>
      let after := c.skip word.length
      let text := if word.isEmpty then [] else gap.text ++ word
      if _h : after.rest.head?.any isSpacing then
        match _hg : readGap indent after with
        | none => none
        | some (gap, next) =>
          if !flow && next.column < indent then some ⟨text, gap.broken, next⟩
          else (readPlain flow indent gap next).map fun p => { p with text := text ++ p.text }
      else some ⟨text, word.isEmpty && gap.broken, after⟩
  termination_by c.rest.length
  decreasing_by
    exact Nat.lt_of_lt_of_le (length_readGap_lt _h _hg) (length_skip_le _ _)

end Fieldwise.Yaml
