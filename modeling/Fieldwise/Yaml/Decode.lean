import Fieldwise.Yaml.Node.Grammar
import Fieldwise.Yaml.Resolve
import Fieldwise.Yaml.Token.Scan

/-!
# Decoding YAML

A `Decoder` takes a node for a value of a certain shape, or says what is wrong with it and where. Data
of the wrong shape is reported before an ill-formed place further on.
-/

namespace Fieldwise.Yaml

/-- What is wrong with a node. The place of a mismatch is that of the innermost node that knows of
it. -/
inductive Fault where
  | illFormed
  | unplaced (why : Mismatch)
  | placed (why : Mismatch) (path : Path) (place : Mark)

/-- Reads values from nodes of a document. -/
abbrev Decoder (α : Type) := Path → Node → Except Fault α

/-- Gives a mismatch a place if it has none. -/
def settle {α : Type} (path : Path) (place : Mark) : Except Fault α → Except Fault α
  | .error (.unplaced why) => .error (.placed why path place)
  | r => r

namespace Document

variable (d : Document)

/-- Follows an alias. -/
def deref : Node → Node
  | .alias anchor => (d.anchor? anchor).getD .cut
  | n => n

/-- Fails at a node that has another shape than is expected. -/
def refuse {α : Type} (expected : String) (path : Path) : Node → Except Fault α
  | .scalar place _ content => .error (.placed (content.mismatch expected) path place)
  | .sequence place _ _ => .error (.placed (.invalidType "sequence" expected) path place)
  | .mapping place _ _ => .error (.placed (.invalidType "map" expected) path place)
  | .alias _ => .error .illFormed
  | .cut => .error .illFormed

/-- Steps over a value. -/
def skip (n : Node) : Except Fault Unit := if n.isWhole then .ok () else .error .illFormed

/-- Reads a text, which is a scalar of any kind. -/
def textAs (expected : String) : Decoder String := fun path n =>
  match d.deref n with
  | .scalar _ _ content => .ok (String.ofList content.text)
  | n => refuse expected path n

/-- Reads a text. -/
def text : Decoder String := d.textAs "a string"

/-- Whether a scalar is written as no value at all. -/
def isAbsent (s : Scalar) : Bool := s.style == .plain && s.text.isEmpty

/-- Whether a scalar stands for a value that is missing. -/
def isMissing (s : Scalar) : Except Fault Bool :=
  if s.style ≠ .plain then .ok false
  else
    match s.tag with
    | none => .ok (s.text.isEmpty || isNull s.text)
    | some tag =>
      if tag ≠ coreTag "null" then .ok false
      else if isNull s.text then .ok true
      else .error (.unplaced (.invalidValue (describeText s.text) "null"))

/-- Reads a value that may be missing. -/
def optional {α : Type} (decode : Decoder α) : Decoder (Option α) := fun path n =>
  match d.deref n with
  | .scalar place anchor content => do
    if ← isMissing content then .ok none
    else
      let value ← decode path (.scalar place anchor content)
      .ok (some value)
  | n => (decode path n).map some

/-- Reads the elements of a sequence, of which the first has an index. -/
def elements {α : Type} (decode : Decoder α) (path : Path) (index : Nat) :
    List Node → Except Fault (List α)
  | [] => .ok []
  | n :: ns => do
    let value ← decode (path ++ [.element index]) n
    let values ← elements decode path (index + 1) ns
    .ok (value :: values)

/-- Reads a sequence. -/
def list {α : Type} (decode : Decoder α) : Decoder (List α) := fun path n =>
  match d.deref n with
  | .sequence place _ ns => settle path place (elements decode path 0 ns)
  | .scalar place anchor content =>
    if isAbsent content then .ok [] else refuse "a sequence" path (.scalar place anchor content)
  | n => refuse "a sequence" path n

/-- The path to the value of a key. -/
def valuePath (path : Path) : Node → Path
  | .scalar _ _ content => path ++ [.member (String.ofList content.text)]
  | _ => path ++ [.unnamed]

/-- Reads the entries of a mapping one after another. What an entry does to what has been read so far
depends on its key. -/
def entries {σ : Type} (expected : String)
    (decode : σ → String → Path → Node → Except Fault σ) (path : Path) (state : σ) :
    List (Node × Node) → Except Fault σ
  | [] => .ok state
  | (key, value) :: rest => do
    let name ← d.textAs expected path key
    let state ← decode state name (valuePath path key) value
    entries expected decode path state rest

/-- The entries of a mapping and its place. A scalar that is written as no value at all is a mapping
without entries. -/
def mappingEntries (expected : String) (path : Path) (n : Node) :
    Except Fault (Mark × List (Node × Node)) :=
  match d.deref n with
  | .mapping place _ es => .ok (place, es)
  | .scalar place anchor content =>
    if isAbsent content then .ok (place, []) else refuse expected path (.scalar place anchor content)
  | n => refuse expected path n

/-- Reads a mapping whose keys are names of fields. `decode` reads the value of a field into what has
been read so far, if there is a field of that name; `finish` takes what has been read in the end. -/
def members {σ α : Type} (name : String) (start : σ)
    (decode : σ → String → Option (Path → Node → Except Fault σ)) (finish : σ → Except Mismatch α) :
    Decoder α := fun path n => do
  let (place, es) ← d.mappingEntries ("struct " ++ name) path n
  settle path place do
    let state ← d.entries "field identifier" (fun state name path value =>
      match decode state name with
      | some read => read path value
      | none => do
        skip value
        .ok state) path start es
    (finish state).mapError .unplaced

/-- Reads the value of a field that must not have been given before. -/
def field {σ α : Type} (name : String) (given : Option α) (decode : Decoder α) (set : α → σ) :
    Path → Node → Except Fault σ := fun path n =>
  match given with
  | some _ => .error (.unplaced (.duplicateField name))
  | none => (decode path n).map set

/-- Reads a mapping of texts. A key that is given twice has its last value. -/
def texts : Decoder (List (String × String)) := fun path n => do
  let (place, es) ← d.mappingEntries "a map" path n
  settle path place do
    d.entries "a string" (fun found name path value => do
      let value ← d.text path value
      .ok ((name, value) :: found.filter fun e => e.1 != name)) path [] es

end Document

/-- The value of a field, which must have been given. -/
def required {α : Type} (name : String) : Option α → Except Mismatch α
  | some value => .ok value
  | none => .error (.missingField name)

/-- Why a text is refused because of one of its nodes. -/
def Fault.toError : Fault → Error
  | .illFormed => .illFormed
  | .unplaced why => .mismatch why [] ⟨0, 0⟩
  | .placed why path place => .mismatch why path place

/-- Reads a text as a document of a certain shape. -/
def decode {α : Type} (decoder : (d : Document) → Decoder α) (text : String) : Except Error α := do
  let d := Document.ofTokens (Token.scan text.toList)
  let value ← (decoder d [] d.root).mapError Fault.toError
  match d.fault with
  | some e => .error e
  | none => .ok value

end Fieldwise.Yaml
