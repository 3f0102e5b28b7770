import Fieldwise.Pattern.Ast.Depth
import Fieldwise.Pattern.Ast.Parser
import Fieldwise.Pattern.Footprint
import Fieldwise.Pattern.Meaning
import Fieldwise.Pattern.Search

/-!
# Compiled patterns

`Pattern.compileWithin` turns the text of a pattern into a `Pattern` that is no larger than a limit, or says
what is wrong with it, and `Pattern.compile` does so within the limit for rules. `Pattern.find?` looks for a
match.
-/

namespace Fieldwise

open Pattern in
/-- A compiled pattern: its text, its program, the number of its capture groups and their names. The
implicit group 0, the match as a whole, does not count. -/
structure Pattern where
  source : String
  program : Program
  groupCount : Nat
  names : GroupNames

/-- Why a text is no pattern: it is at fault somewhere, or the pattern is too large. -/
inductive PatternError where
  | malformed (source : String) (fault : Pattern.Fault)
  | tooLarge (limit : Nat)
  deriving DecidableEq, Repr

/-- What is wrong with a pattern, in words. -/
def PatternError.message : PatternError → String
  | .malformed source fault => fault.render source
  | .tooLarge limit => "Compiled regex exceeds size limit of " ++ toString limit ++ " bytes."

namespace Pattern

/-- The meaning of a pattern's text, and the names that it gives to groups. -/
def parse (source : String) : Except Fault (Expr × GroupNames) := do
  let (tree, names) ← Ast.parse source
  tree.checkDepth 0
  let (expr, _) ← tree.toExpr {}
  .ok (expr, names)

/-- The pattern with a given meaning. A group that cannot take part in a match does not count, unless
a later one can. -/
def ofExpr (source : String) (expr : Expr) (names : GroupNames) : Pattern :=
  let indexes := expr.captureIndexes
  { source
    program := expr.program
    groupCount := indexes.foldl max 0
    names := names.keep indexes.contains }

/-- Compiles the text of a pattern whose size has a limit. -/
def compileWithin (limit : Nat) (source : String) : Except PatternError Pattern :=
  match parse source with
  | .error fault => .error (.malformed source fault)
  | .ok (expr, names) =>
    if expr.fits limit then .ok (ofExpr source expr names) else .error (.tooLarge limit)

/-- Compiles the text of a rule's pattern. -/
def compile (source : String) : Except PatternError Pattern := compileWithin sizeLimit source

/-- The two limits are one, so that they let the same patterns through. -/
theorem compileWithin_defaultSizeLimit (source : String) :
    compileWithin defaultSizeLimit source = compile source := by
  have hlimit : defaultSizeLimit = sizeLimit := rfl
  rw [compile, hlimit]

/-- What is compiled is the meaning of the text. -/
theorem exists_parse_of_compile {source : String} {p : Pattern} (h : compile source = .ok p) :
    ∃ expr names, parse source = .ok (expr, names) ∧ p = ofExpr source expr names := by
  unfold compile compileWithin at h
  split at h
  · cases h
  · rename_i expr names hparse
    split at h
    · exact ⟨expr, names, hparse, (Except.ok.inj h).symm⟩
    · cases h

/-- The first match in a text that begins at the place `start` or later. -/
def find? (p : Pattern) (text : Array Char) (start : Nat) : Option Match := p.program.find? text start

/-- A match lies within the text, at or after the place where the search began. -/
theorem find?_bounds {p : Pattern} {text : Array Char} {start : Nat} {m : Match}
    (h : p.find? text start = some m) :
    start ≤ m.start ∧ m.start ≤ m.stop ∧ m.stop ≤ text.size :=
  Program.find?_bounds h

end Pattern

end Fieldwise
