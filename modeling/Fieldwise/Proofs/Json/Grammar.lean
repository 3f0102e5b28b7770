import Fieldwise.Json.Cursor

/-!
# The grammar of JSON

`Json.Spells` says which texts stand for which documents. It covers all of JSON and not only what the library
writes: constants, numbers of any form, strings with any escapes, and white space wherever it may stand. An
array or an object is spelled by its parts, each with the white space ahead of it and, from the second part
on, with a comma. The relation does not say how a text is read.
-/

namespace Fieldwise.Json

/-- What a JSON text can stand for. A number is kept as it is written. -/
inductive Document where
  | null
  | bool (b : Bool)
  | number (numeral : String)
  | string (s : String)
  | array (elements : List Document)
  | object (members : List (String × Document))
  deriving Inhabited

/-- The text is white space. -/
def IsWhite (text : List Char) : Prop := ∀ x ∈ text, Cursor.isWhite x = true

/-! ### Numbers -/

/-- The text is one digit or more. -/
def IsDigits (text : List Char) : Prop := text ≠ [] ∧ ∀ c ∈ text, c.isDigit = true

/-- The text is a whole number without zeros ahead of it. -/
inductive IsWhole : List Char → Prop
  | zero : IsWhole ['0']
  | digits {c : Char} {text : List Char} (hne : c ≠ '0') (h : IsDigits (c :: text)) : IsWhole (c :: text)

/-- The text is a fraction with its point, or there is none. -/
inductive IsFraction : List Char → Prop
  | none : IsFraction []
  | digits {text : List Char} (h : IsDigits text) : IsFraction ('.' :: text)

/-- The text is an exponent with its letter, or there is none. -/
inductive IsExponent : List Char → Prop
  | none : IsExponent []
  | digits {letter : Char} {sign text : List Char} (hletter : letter = 'e' ∨ letter = 'E')
      (hsign : sign = [] ∨ sign = ['+'] ∨ sign = ['-']) (h : IsDigits text) :
      IsExponent (letter :: sign ++ text)

/-- The text is a number. -/
inductive IsNumeral : List Char → Prop
  | parts {sign whole fraction exponent : List Char} (hsign : sign = [] ∨ sign = ['-'])
      (hwhole : IsWhole whole) (hfraction : IsFraction fraction) (hexponent : IsExponent exponent) :
      IsNumeral (sign ++ whole ++ fraction ++ exponent)

/-! ### Strings -/

/-- The number that four hexadecimal digits stand for. -/
def hexNumber? : List Char → Option Nat
  | [x₁, x₂, x₃, x₄] => do
    let d₁ ← Hex.digitValue? x₁
    let d₂ ← Hex.digitValue? x₂
    let d₃ ← Hex.digitValue? x₃
    let d₄ ← Hex.digitValue? x₄
    some (((d₁ * 16 + d₂) * 16 + d₃) * 16 + d₄)
  | _ => none

/-- How a character of a string can be spelled: as itself, by an escape of one letter, by its number, or by
the two surrogates that make up its number. -/
inductive SpellsChar : Char → List Char → Prop
  | plain {c : Char} (hquote : c ≠ '"') (hbackslash : c ≠ '\\') (hcontrol : ¬c.toNat < 0x20) :
      SpellsChar c [c]
  | letter {c letter : Char} (h : simpleEscape? letter = some c) : SpellsChar c ['\\', letter]
  | number {digits : List Char} {n : Nat} (h : hexNumber? digits = some n)
      (hn : n < 0xD800 ∨ 0xDFFF < n) : SpellsChar (Char.ofNat n) ('\\' :: 'u' :: digits)
  | pair {digits digits' : List Char} {n m : Nat} (h : hexNumber? digits = some n)
      (h' : hexNumber? digits' = some m) (hn : 0xD800 ≤ n ∧ n ≤ 0xDBFF) (hm : 0xDC00 ≤ m ∧ m ≤ 0xDFFF) :
      SpellsChar (Char.ofNat ((n - 0xD800) * 0x400 + (m - 0xDC00) + 0x10000))
        ('\\' :: 'u' :: digits ++ '\\' :: 'u' :: digits')

/-- How the characters of a string can be spelled, between the quotes. -/
inductive SpellsChars : List Char → List Char → Prop
  | nil : SpellsChars [] []
  | cons {c : Char} {cs text text' : List Char} (h : SpellsChar c text) (h' : SpellsChars cs text') :
      SpellsChars (c :: cs) (text ++ text')

/-! ### Arrays and objects -/

/-- A part of an array or an object: its text, the white space ahead of it, and the white space ahead of the
comma, which the first part does not have. -/
structure Part where
  gap : List Char
  indent : List Char
  text : List Char

namespace Part

/-- There is nothing but white space around the part. -/
structure IsSpaced (p : Part) : Prop where
  gap : IsWhite p.gap
  indent : IsWhite p.indent

/-- The text of a part with the white space ahead of it. -/
def first (p : Part) : List Char := p.indent ++ p.text

/-- The text of a part with the comma ahead of it. -/
def next (p : Part) : List Char := p.gap ++ ',' :: p.first

end Part

/-- The text of parts that are separated by commas. -/
def separated : List Part → List Char
  | [] => []
  | p :: ps => p.first ++ ps.flatMap Part.next

/-- An element of an array. -/
structure Element extends Part where
  document : Document

/-- A member of an object: how its name is spelled between the quotes, and the text of its document. -/
structure Member extends Part where
  name : String
  key : List Char
  beforeColon : List Char
  afterColon : List Char
  value : List Char
  document : Document

/-- The text of the member is its name, a colon and its document. -/
structure Member.IsNamed (m : Member) : Prop where
  text_eq : m.text = '"' :: (m.key ++ '"' :: (m.beforeColon ++ ':' :: (m.afterColon ++ m.value)))
  key : SpellsChars m.name.toList m.key
  beforeColon : IsWhite m.beforeColon
  afterColon : IsWhite m.afterColon

/-! ### Documents -/

/-- The text stands for the document. -/
inductive Spells : Document → List Char → Prop
  | null : Spells .null "null".toList
  | bool (b : Bool) : Spells (.bool b) (toString b).toList
  | number {text : List Char} (h : IsNumeral text) : Spells (.number (String.ofList text)) text
  | string {s : String} {text : List Char} (h : SpellsChars s.toList text) :
      Spells (.string s) ('"' :: (text ++ ['"']))
  | array {elements : List Element} {white : List Char} (hspaced : ∀ e ∈ elements, e.IsSpaced)
      (hwhite : IsWhite white) (h : ∀ e ∈ elements, Spells e.document e.text) :
      Spells (.array (elements.map Element.document))
        ('[' :: (separated (elements.map Element.toPart) ++ white ++ [']']))
  | object {members : List Member} {white : List Char} (hspaced : ∀ m ∈ members, m.IsSpaced)
      (hnamed : ∀ m ∈ members, m.IsNamed) (hwhite : IsWhite white)
      (h : ∀ m ∈ members, Spells m.document m.value) :
      Spells (.object (members.map fun m => (m.name, m.document)))
        ('{' :: (separated (members.map Member.toPart) ++ white ++ ['}']))

/-- The text is a JSON text: one document with white space around it. -/
inductive IsText : Document → List Char → Prop
  | around {d : Document} {before text after : List Char} (hbefore : IsWhite before) (h : Spells d text)
      (hafter : IsWhite after) : IsText d (before ++ text ++ after)

end Fieldwise.Json
