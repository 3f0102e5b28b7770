import Fieldwise.Yaml.Token

/-!
# YAML documents

A document is a tree of scalars, sequences and mappings. An alias stands for the node with a certain
anchor. Where the text of a document breaks off because it is ill-formed, the tree ends in a cut: what
stands before it can still be read.
-/

namespace Fieldwise.Yaml

/-- A scalar: its text, how it is written, and its tag. -/
structure Scalar where
  text : List Char
  style : ScalarStyle
  tag : Option String
  deriving BEq, DecidableEq, Repr

/-- A value of a document, with the place where it begins and the number of its anchor. -/
inductive Node where
  | scalar (place : Mark) (anchor : Option Nat) (content : Scalar)
  | alias (anchor : Nat)
  | sequence (place : Mark) (anchor : Option Nat) (elements : List Node)
  | mapping (place : Mark) (anchor : Option Nat) (entries : List (Node × Node))
  | cut
  deriving Inhabited

namespace Node

/-- A scalar that is not written. -/
def empty (place : Mark) : Node := .scalar place none ⟨[], .plain, none⟩

mutual

/-- Whether the text of a node does not break off. -/
def isWhole : Node → Bool
  | .scalar .. => true
  | .alias _ => true
  | .sequence _ _ elements => areWhole elements
  | .mapping _ _ entries => areWholeEntries entries
  | .cut => false

/-- Whether the text of nodes does not break off. -/
def areWhole : List Node → Bool
  | [] => true
  | n :: ns => n.isWhole && areWhole ns

/-- Whether the text of entries does not break off. -/
def areWholeEntries : List (Node × Node) → Bool
  | [] => true
  | (k, v) :: es => k.isWhole && v.isWhole && areWholeEntries es

end

mutual

/-- The nodes with anchors in a node, in the order in which they begin. -/
def anchored : Node → List (Nat × Node)
  | .scalar place anchor content =>
    (anchor.map fun a => (a, .scalar place anchor content)).toList
  | .alias _ => []
  | .sequence place anchor elements =>
    (anchor.map fun a => (a, .sequence place anchor elements)).toList ++ allAnchored elements
  | .mapping place anchor entries =>
    (anchor.map fun a => (a, .mapping place anchor entries)).toList ++ entriesAnchored entries
  | .cut => []

/-- The nodes with anchors in some nodes. -/
def allAnchored : List Node → List (Nat × Node)
  | [] => []
  | n :: ns => n.anchored ++ allAnchored ns

/-- The nodes with anchors in some entries. -/
def entriesAnchored : List (Node × Node) → List (Nat × Node)
  | [] => []
  | (k, v) :: es => k.anchored ++ v.anchored ++ entriesAnchored es

end

end Node

/-- A document: its tree, and why the text is refused even if the tree is as it should be. -/
structure Document where
  root : Node
  fault : Option Error

/-- The node that an anchor stands for: the last one to begin with it. -/
def Document.anchor? (d : Document) (anchor : Nat) : Option Node :=
  d.root.anchored.reverse.lookup anchor

end Fieldwise.Yaml
