import Fieldwise.Pattern.Ast

/-!
# The depth of a pattern

Patterns are nested at most `depthLimit` deep: groups, repetitions, alternations, sequences and the
parts of classes count one level each. Within the limit the library can work on patterns by
recursion.
-/

namespace Fieldwise.Pattern

/-- How deep a pattern may be nested. -/
def depthLimit : Nat := 250

/-- Checks that a node fits below `depth` levels of others, and yields the depth of its parts. -/
def enter (depth : Nat) (span : Span) : Except Fault Nat :=
  if depth < depthLimit then .ok (depth + 1) else .error ⟨.nestedTooDeep depthLimit, span⟩

mutual

/-- Checks the depth of a class that stands below `depth` levels. -/
def ClassSet.checkDepth (depth : Nat) : ClassSet → Except Fault Unit
  | .bracketed span _ set => do set.checkDepth (← enter depth span)
  | .union span items => do ClassSet.checkDepths (← enter depth span) items
  | .operator span _ lhs rhs => do
    let inner ← enter depth span
    lhs.checkDepth inner
    rhs.checkDepth inner
  | .empty _ | .literal _ | .range .. | .ascii .. | .property .. | .shorthand .. => .ok ()

/-- Checks the depth of the items of a class, from left to right. -/
def ClassSet.checkDepths (depth : Nat) : List ClassSet → Except Fault Unit
  | [] => .ok ()
  | item :: rest => do
    item.checkDepth depth
    ClassSet.checkDepths depth rest

end

mutual

/-- Checks the depth of a tree that stands below `depth` levels. -/
def Ast.checkDepth (depth : Nat) : Ast → Except Fault Unit
  | .bracketed span _ set => do set.checkDepth (← enter depth span)
  | .repetition span _ _ _ sub => do sub.checkDepth (← enter depth span)
  | .group span _ sub => do sub.checkDepth (← enter depth span)
  | .alternation span branches => do Ast.checkDepths (← enter depth span) branches
  | .concat span items => do Ast.checkDepths (← enter depth span) items
  | .empty _ | .flags .. | .literal _ | .dot _ | .assertion .. | .shorthand .. | .property .. =>
    .ok ()

/-- Checks the depth of several trees, from left to right. -/
def Ast.checkDepths (depth : Nat) : List Ast → Except Fault Unit
  | [] => .ok ()
  | item :: rest => do
    item.checkDepth depth
    Ast.checkDepths depth rest

end

end Fieldwise.Pattern
