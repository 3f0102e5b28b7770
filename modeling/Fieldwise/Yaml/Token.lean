import Fieldwise.Yaml.Error

/-!
# YAML tokens

The words of the notation. Where a block collection begins or ends, and where a key begins that is
told from other scalars by the colon after it, there are tokens too, although nothing is written.
-/

namespace Fieldwise.Yaml

/-- How a scalar is written. -/
inductive ScalarStyle where
  | plain
  | quoted
  deriving BEq, DecidableEq, Repr

/-- What a token is. -/
inductive TokenKind where
  | streamEnd
  | versionDirective (major minor : Nat)
  | tagDirective (handle replacement : String)
  | documentStart
  | documentEnd
  | blockSequenceStart
  | blockMappingStart
  | blockEnd
  | flowSequenceStart
  | flowSequenceEnd
  | flowMappingStart
  | flowMappingEnd
  | blockEntry
  | flowEntry
  | key
  | value
  | alias (name : String)
  | anchor (name : String)
  | tag (handle suffix : String)
  | scalar (text : List Char) (style : ScalarStyle)
  deriving BEq, DecidableEq, Repr

/-- A token with the places where it begins and ends. -/
structure Token where
  kind : TokenKind
  start : Mark
  stop : Mark
  deriving BEq, DecidableEq, Repr

end Fieldwise.Yaml
