import Fieldwise.Yaml.Node

/-!
# Documents from tokens

The grammar of documents. Each reader takes what it needs from the beginning of the tokens. Tokens do
not end before the end of the text, so that running out of them means that the text is ill-formed
there; a reader that meets a token that cannot stand there drops all that follow, which comes to the
same.
-/

namespace Fieldwise.Yaml

/-- What is still to be read: tokens, and the numbers of the anchors so far. -/
structure Reading where
  tokens : List Token
  anchors : List (String × Nat)

namespace Reading

/-- There are no more tokens that can be read. -/
def fail (r : Reading) : Reading := { r with tokens := [] }

/-- The kind of the token that comes next. -/
def kind? (r : Reading) : Option TokenKind := r.tokens.head?.map (·.kind)

/-- Numbers an anchor. A name that was used before stands for the new anchor from then on. -/
def addAnchor (r : Reading) : Option String → Option Nat × Reading
  | none => (none, r)
  | some name =>
    let number := r.anchors.length
    let anchors := if (r.anchors.lookup name).isSome
      then r.anchors.map fun (n, i) => if n == name then (n, number) else (n, i)
      else r.anchors ++ [(name, number)]
    (some number, { r with anchors })

end Reading

/-- The meanings of tag handles. -/
abbrev Handles := List (String × String)

/-- The tag that a handle and a suffix stand for. -/
def resolveTag (handles : Handles) (handle suffix : String) : Option String :=
  if handle.isEmpty then some suffix else (handles.lookup handle).map (· ++ suffix)

/-- The anchor and the tag of a node. -/
structure Properties where
  anchor : Option String
  tag : Option String

/-- Reads the anchor and the tag before a node, which come in either order. -/
def readProperties (handles : Handles) : List Token → Option (Properties × List Token)
  | ⟨.anchor name, _, _⟩ :: ⟨.tag handle suffix, _, _⟩ :: rest =>
    (resolveTag handles handle suffix).map fun tag => (⟨some name, some tag⟩, rest)
  | ⟨.tag handle suffix, _, _⟩ :: ⟨.anchor name, _, _⟩ :: rest =>
    (resolveTag handles handle suffix).map fun tag => (⟨some name, some tag⟩, rest)
  | ⟨.anchor name, _, _⟩ :: rest => some (⟨some name, none⟩, rest)
  | ⟨.tag handle suffix, _, _⟩ :: rest =>
    (resolveTag handles handle suffix).map fun tag => (⟨none, some tag⟩, rest)
  | tokens => some (⟨none, none⟩, tokens)

/-- Where a node stands, which decides what it can be: in a flow collection; in a block collection; or
after a key, where the entries of a sequence need no more indentation than the key. -/
inductive Site where
  | flow
  | block
  | afterKey
  deriving BEq, DecidableEq

/-- The scalar of a token. A tag that says nothing is dropped. -/
def scalarOf (text : List Char) (style : ScalarStyle) (tag : Option String) : Scalar :=
  ⟨text, style, if tag = some "!" then none else tag⟩

/-- Whether no node comes next, because an entry of a block mapping ends here. -/
def endsMappingItem : TokenKind → Bool
  | .key | .value | .blockEnd => true
  | _ => false

/-- Whether no node comes next, because an entry of a block sequence ends here. -/
def endsSequenceItem : TokenKind → Bool
  | .blockEntry | .blockEnd => true
  | _ => false

/-- Whether no node comes next, because an entry of a sequence at the column of its key ends here. -/
def endsInnerItem : TokenKind → Bool
  | .blockEntry | .key | .value | .blockEnd => true
  | _ => false

/-- Whether no value comes next, because an entry of a flow collection ends here. -/
def endsFlowItem (close : TokenKind) (k : TokenKind) : Bool := k == .flowEntry || k == close

mutual

/-- Reads a node. -/
def readNode (handles : Handles) (site : Site) (r : Reading) : (fuel : Nat) → Node × Reading
  | 0 => (.cut, r.fail)
  | fuel + 1 =>
    match r.tokens, readProperties handles r.tokens with
    | first :: _, some (props, t :: rest) =>
      let place := first.start
      let bare := props.anchor.isNone && props.tag.isNone
      let absent : Node × Reading :=
        if bare then (.cut, r.fail)
        else
          let (anchor, r) := r.addAnchor props.anchor
          (.scalar place anchor ⟨[], .plain, props.tag⟩, { r with tokens := t :: rest })
      let (anchor, open') := { r with tokens := rest }.addAnchor props.anchor
      match t.kind with
      | .alias name =>
        if bare then
          match r.anchors.lookup name with
          | some number => (.alias number, { r with tokens := rest })
          | none => (.cut, r.fail)
        else absent
      | .scalar text style => (.scalar place anchor (scalarOf text style props.tag), open')
      | .blockEntry =>
        if site = .afterKey then
          let (elements, r) :=
            readInnerSequence handles { open' with tokens := t :: rest } fuel
          (.sequence place anchor elements, r)
        else absent
      | .flowSequenceStart =>
        let (elements, r) := readFlowSequence handles true open' fuel
        (.sequence place anchor elements, r)
      | .flowMappingStart =>
        let (entries, r) := readFlowMapping handles true open' fuel
        (.mapping place anchor entries, r)
      | .blockSequenceStart =>
        if site = .flow then absent
        else
          let (elements, r) := readBlockSequence handles open' fuel
          (.sequence place anchor elements, r)
      | .blockMappingStart =>
        if site = .flow then absent
        else
          let (entries, r) := readBlockMapping handles open' fuel
          (.mapping place anchor entries, r)
      | _ => absent
    | _, _ => (.cut, r.fail)

/-- Reads a node, or an empty one at a place if an entry ends here. -/
def readItem (handles : Handles) (site : Site) (ends : TokenKind → Bool) (place : Mark)
    (r : Reading) : (fuel : Nat) → Node × Reading
  | 0 => (.cut, r.fail)
  | fuel + 1 =>
    if r.kind?.any ends then (.empty place, r) else readNode handles site r fuel

/-- Reads the entries of a block sequence and its end. -/
def readBlockSequence (handles : Handles) (r : Reading) : (fuel : Nat) → List Node × Reading
  | 0 => ([.cut], r.fail)
  | fuel + 1 =>
    match r.tokens with
    | ⟨.blockEntry, _, stop⟩ :: rest =>
      let (element, r) := readItem handles .block endsSequenceItem stop { r with tokens := rest } fuel
      let (elements, r) := readBlockSequence handles r fuel
      (element :: elements, r)
    | ⟨.blockEnd, _, _⟩ :: rest => ([], { r with tokens := rest })
    | _ => ([.cut], r.fail)

/-- Reads the entries of a block sequence at the column of its key. Whatever is no entry ends it. -/
def readInnerSequence (handles : Handles) (r : Reading) : (fuel : Nat) → List Node × Reading
  | 0 => ([.cut], r.fail)
  | fuel + 1 =>
    match r.tokens with
    | ⟨.blockEntry, _, stop⟩ :: rest =>
      let (element, r) := readItem handles .block endsInnerItem stop { r with tokens := rest } fuel
      let (elements, r) := readInnerSequence handles r fuel
      (element :: elements, r)
    | _ :: _ => ([], r)
    | [] => ([.cut], r.fail)

/-- Reads the entries of a block mapping and its end. -/
def readBlockMapping (handles : Handles) (r : Reading) : (fuel : Nat) → List (Node × Node) × Reading
  | 0 => ([(.cut, .cut)], r.fail)
  | fuel + 1 =>
    match r.tokens with
    | ⟨.key, _, stop⟩ :: rest =>
      let (key, r) := readItem handles .afterKey endsMappingItem stop { r with tokens := rest } fuel
      let (value, r) := readBlockValue handles r fuel
      let (entries, r) := readBlockMapping handles r fuel
      ((key, value) :: entries, r)
    | ⟨.blockEnd, _, _⟩ :: rest => ([], { r with tokens := rest })
    | _ => ([(.cut, .cut)], r.fail)

/-- Reads the value of an entry of a block mapping, which may be missing. -/
def readBlockValue (handles : Handles) (r : Reading) : (fuel : Nat) → Node × Reading
  | 0 => (.cut, r.fail)
  | fuel + 1 =>
    match r.tokens with
    | ⟨.value, _, stop⟩ :: rest =>
      readItem handles .afterKey endsMappingItem stop { r with tokens := rest } fuel
    | t :: _ => (.empty t.start, r)
    | [] => (.cut, r.fail)

/-- Reads the entries of a flow sequence and its end. -/
def readFlowSequence (handles : Handles) (first : Bool) (r : Reading) :
    (fuel : Nat) → List Node × Reading
  | 0 => ([.cut], r.fail)
  | fuel + 1 =>
    match r.tokens with
    | ⟨.flowSequenceEnd, _, _⟩ :: rest => ([], { r with tokens := rest })
    | t :: rest =>
      if first || t.kind == .flowEntry then
        let tokens := if first then t :: rest else rest
        match tokens with
        | ⟨.flowSequenceEnd, _, _⟩ :: rest => ([], { r with tokens := rest })
        | ⟨.key, start, _⟩ :: rest =>
          let (entry, r) := readPair handles { r with tokens := rest } fuel
          let entries := if r.tokens.isEmpty then [entry, (.cut, .cut)] else [entry]
          let (elements, r) := readFlowSequence handles false r fuel
          (.mapping start none entries :: elements, r)
        | _ =>
          let (element, r) := readNode handles .flow { r with tokens } fuel
          let (elements, r) := readFlowSequence handles false r fuel
          (element :: elements, r)
      else ([.cut], r.fail)
    | [] => ([.cut], r.fail)

/-- Reads the only entry of a mapping that is an entry of a flow sequence, after the sign of its key.
A key that is missing takes the token with it before which it should stand. -/
def readPair (handles : Handles) (r : Reading) : (fuel : Nat) → (Node × Node) × Reading
  | 0 => ((.cut, .cut), r.fail)
  | fuel + 1 =>
    match r.tokens with
    | [] => ((.cut, .cut), r.fail)
    | t :: rest =>
      let (key, r) :=
        if t.kind == .value || endsFlowItem .flowSequenceEnd t.kind then
          (Node.empty t.stop, { r with tokens := rest })
        else readNode handles .flow r fuel
      let (value, r) := readFlowValue handles .flowSequenceEnd r fuel
      ((key, value), r)

/-- Reads the value of an entry of a flow collection, which may be missing. -/
def readFlowValue (handles : Handles) (close : TokenKind) (r : Reading) :
    (fuel : Nat) → Node × Reading
  | 0 => (.cut, r.fail)
  | fuel + 1 =>
    match r.tokens with
    | ⟨.value, _, _⟩ :: t :: rest =>
      let r := { r with tokens := t :: rest }
      if endsFlowItem close t.kind then (.empty t.start, r) else readNode handles .flow r fuel
    | [⟨.value, _, _⟩] => (.cut, r.fail)
    | t :: _ => (.empty t.start, r)
    | [] => (.cut, r.fail)

/-- Reads the entries of a flow mapping and its end. -/
def readFlowMapping (handles : Handles) (first : Bool) (r : Reading) :
    (fuel : Nat) → List (Node × Node) × Reading
  | 0 => ([(.cut, .cut)], r.fail)
  | fuel + 1 =>
    match r.tokens with
    | ⟨.flowMappingEnd, _, _⟩ :: rest => ([], { r with tokens := rest })
    | t :: rest =>
      if first || t.kind == .flowEntry then
        let tokens := if first then t :: rest else rest
        match tokens with
        | ⟨.flowMappingEnd, _, _⟩ :: rest => ([], { r with tokens := rest })
        | ⟨.key, _, _⟩ :: t :: rest =>
          let r := { r with tokens := t :: rest }
          let (key, r) :=
            if t.kind == .value || endsFlowItem .flowMappingEnd t.kind then (.empty t.start, r)
            else readNode handles .flow r fuel
          let (value, r) := readFlowValue handles .flowMappingEnd r fuel
          let (entries, r) := readFlowMapping handles false r fuel
          ((key, value) :: entries, r)
        | _ =>
          let (key, r) := readNode handles .flow { r with tokens } fuel
          let value := r.tokens.head?.elim Node.cut fun t => .empty t.start
          let (entries, r) := readFlowMapping handles false r fuel
          ((key, value) :: entries, r)
      else ([(.cut, .cut)], r.fail)
    | [] => ([(.cut, .cut)], r.fail)

end

/-! ### Documents -/

/-- The handles that always have a meaning. -/
def defaultHandles : Handles := [("!", "!"), ("!!", "tag:yaml.org,2002:")]

/-- Reads the directives before a document: the versions and the handles that they give. A version
that is not known, and one that is given twice, is refused; so is a handle. -/
def readDirectives (versioned : Bool) (handles : Handles) : List Token → Option (Handles × List Token)
  | ⟨.versionDirective major minor, _, _⟩ :: rest =>
    if versioned || major ≠ 1 || (minor ≠ 1 && minor ≠ 2) then none
    else readDirectives true handles rest
  | ⟨.tagDirective handle replacement, _, _⟩ :: rest =>
    if (handles.lookup handle).isSome then none
    else readDirectives versioned (handles ++ [(handle, replacement)]) rest
  | tokens => some (handles, tokens)

/-- Whether a document has no content, because something else follows. -/
def endsDocument : TokenKind → Bool
  | .versionDirective .. | .tagDirective .. | .documentStart | .documentEnd | .streamEnd => true
  | _ => false

/-- Why the text is refused after its first document, of which the rest is given. -/
def faultAfter : List Token → Option Error
  | [] => some .illFormed
  | ⟨.documentEnd, _, _⟩ :: rest => faultAfter rest
  | ⟨.streamEnd, _, _⟩ :: _ => none
  | ⟨.documentStart, _, _⟩ :: _ => some .notOneDocument
  | _ => some .illFormed

/-- Reads the content of a document, and looks at what follows it. -/
def readContent (handles : Handles) (tokens : List Token) : Document :=
  let (root, r) := readNode handles .block ⟨tokens, []⟩ (4 * tokens.length + 8)
  ⟨root, faultAfter r.tokens⟩

/-- The first document of a text. A text without a document has an empty one. -/
def Document.ofTokens (tokens : List Token) : Document :=
  match tokens with
  | [] => ⟨.cut, some .illFormed⟩
  | first :: _ =>
    match first.kind with
    | .streamEnd => ⟨.empty first.start, none⟩
    | .versionDirective .. | .tagDirective .. | .documentStart =>
      match readDirectives false [] tokens with
      | some (handles, ⟨.documentStart, _, _⟩ :: t :: rest) =>
        if endsDocument t.kind then ⟨.empty t.start, faultAfter (t :: rest)⟩
        else readContent (handles ++ defaultHandles) (t :: rest)
      | _ => ⟨.cut, some .illFormed⟩
    | _ => readContent defaultHandles tokens

end Fieldwise.Yaml
