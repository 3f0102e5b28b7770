import Fieldwise.Mismatch

/-!
# What can be wrong with a YAML text

A text may be no YAML at all, may hold something else than one document, or may hold a document that
does not have the shape that is wanted. In the last case the error tells where.
-/

namespace Fieldwise.Yaml

/-- A place in a text, counted from 0. -/
structure Mark where
  line : Nat
  column : Nat
  deriving BEq, DecidableEq, Repr, Inhabited

/-- A step from a value into one that it contains. The name of a member is not known if its key is an
alias. -/
inductive PathStep where
  | element (index : Nat)
  | member (key : String)
  | unnamed
  deriving BEq, DecidableEq, Repr

/-- The way from a document into a value, from the outside in. -/
abbrev Path := List PathStep

/-- A path in words: each step but the first follows a point, and the number of an element stands
between escaped brackets. The document itself is a point. -/
def renderPath : Path → String
  | [] => "."
  | step :: rest => rest.foldl (fun text step => text ++ "." ++ word step) (word step)
where
  /-- A step in words. -/
  word : PathStep → String
    | .element index => "\\[" ++ toString index ++ "\\]"
    | .member key => key
    | .unnamed => "?"

/-- Why a text is refused. -/
inductive Error where
  | illFormed
  | notOneDocument
  | mismatch (why : Mismatch) (path : Path) (place : Mark)
  deriving BEq, DecidableEq, Repr

/-- Why a text is refused, in words. The beginning of the text is not named as a place, nor is the
document itself. -/
def Error.message : Error → String
  | .illFormed => "the text is not well-formed YAML"
  | .notOneDocument => "the text holds more than one document"
  | .mismatch why path place =>
    (if renderPath path = "." then "" else renderPath path ++ ": ") ++ why.message ++
      if place = ⟨0, 0⟩ then ""
      else " at line " ++ toString (place.line + 1) ++ " column " ++ toString (place.column + 1)

end Fieldwise.Yaml
