import Fieldwise.Yaml.Cursor
import Fieldwise.Yaml.Resolve

/-!
# Writing scalars

A text is written plainly if it then reads as that text. Otherwise it is quoted, or, if it has several
lines, set as a literal block. Double quotes are for what cannot be written without escapes.
-/

namespace Fieldwise.Yaml

/-! ### What stands in the way of a form -/

/-- Whether a character is written as it is. -/
def isPrintable (c : Char) : Bool :=
  let n := c.toNat
  n == 0x0A || (0x20 ≤ n && n ≤ 0x7E) || (0xA0 ≤ n && n != 0xFEFF && n != 0xFFFE && n != 0xFFFF)

/-- Whether a character of one class follows one of another. -/
def hasAdjacent (p q : Char → Bool) : List Char → Bool
  | a :: b :: rest => (p a && q b) || hasAdjacent p q (b :: rest)
  | _ => false

/-- Whether a character is a space. -/
def isSpace (c : Char) : Bool := c == ' '

/-- The characters that mean something at the beginning of a node. -/
def isIndicator (c : Char) : Bool := "#,[]{}&*!|>'\"%@`".toList.contains c

/-- Whether a colon before spacing or at the end, or a number sign after spacing, is among some
characters, of which the one before is given. -/
def hasInnerIndicator (previous : Char) : List Char → Bool
  | [] => false
  | c :: rest =>
    (c == ':' && endsWord rest) || (c == '#' && isSpacing previous) || hasInnerIndicator c rest

/-- Whether a text holds characters that mean something where they stand. -/
def hasIndicators (text : List Char) : Bool :=
  ['-', '-', '-'].isPrefixOf text || ['.', '.', '.'].isPrefixOf text ||
    match text with
    | [] => false
    | c :: rest =>
      isIndicator c || ((c == '?' || c == ':' || c == '-') && endsWord rest) ||
        hasInnerIndicator c rest

/-- Whether a text can be plain. -/
def allowsPlain (text : List Char) : Bool :=
  text.all isPrintable && !text.any isBreak && !text.head?.any isSpace &&
    !text.getLast?.any isSpace && !hasIndicators text

/-- Whether a text can stand between single quotes. -/
def allowsSingle (text : List Char) : Bool :=
  text.all isPrintable && !hasAdjacent isBreak isSpace text && !hasAdjacent isSpace isBreak text

/-- Whether a text can be a literal block. -/
def allowsLiteral (text : List Char) : Bool :=
  text.all isPrintable && !hasAdjacent isSpace isBreak text && !text.getLast?.any isSpace

/-- The words for truth values, of which some readers know more than others. -/
def truthWords : List String :=
  ["y", "Y", "yes", "Yes", "YES", "n", "N", "no", "No", "NO", "true", "True", "TRUE", "false", "False",
    "FALSE", "on", "On", "ON", "off", "Off", "OFF"]

/-- Whether a text begins as a number may. -/
def beginsAsNumber (text : List Char) : Bool :=
  text.head?.any fun c => c.isDigit || c == '-' || c == '+' || c == '.'

/-- Whether some reader may take a plain scalar for something else than its text: for a truth value or
for nothing, in letters of whatever case, or for a number. -/
def isAmbiguous (text : List Char) : Bool :=
  let lower := text.map Char.toLower
  text.isEmpty || truthWords.contains (String.ofList text) || (readBool? lower).isSome ||
    isNull lower || beginsAsNumber text

/-- The forms of a scalar. -/
inductive Form where
  | plain
  | single
  | double
  | literal
  deriving BEq, DecidableEq, Repr

/-- The form in which a text is written. -/
def formOf (text : List Char) : Form :=
  if text.contains '\n' then (if allowsLiteral text then .literal else .double)
  else if !isAmbiguous text && allowsPlain text then .plain
  else if allowsSingle text then .single
  else .double

/-! ### The forms -/

/-- Indentation. -/
def spaces (n : Nat) : List Char := List.replicate n ' '

/-- The rest of a text between single quotes. A line is indented; `broken` tells whether one begins
here. -/
def writeSingle (indent : Nat) (broken : Bool) : List Char → List Char
  | [] => (if broken then spaces indent else []) ++ ['\'']
  | c :: rest =>
    if isBreak c then c :: writeSingle indent true rest
    else
      (if broken then spaces indent else []) ++
        (if c = '\'' then ['\'', '\''] else [c]) ++ writeSingle indent false rest

/-- A digit in upper case, of a number below 16. -/
def upperDigit (n : Nat) : Char :=
  if n < 10 then Char.ofNat ('0'.toNat + n) else Char.ofNat ('A'.toNat + (n - 10))

/-- A number as so many digits. -/
def hexOfWidth (n : Nat) : (width : Nat) → List Char
  | 0 => []
  | width + 1 => hexOfWidth (n / 16) width ++ [upperDigit (n % 16)]

/-- The letter that stands for a character after a backslash. -/
def escapeLetter? (c : Char) : Option Char :=
  match c with
  | '\x00' => some '0'
  | '\x07' => some 'a'
  | '\x08' => some 'b'
  | '\t' => some 't'
  | '\n' => some 'n'
  | '\x0b' => some 'v'
  | '\x0c' => some 'f'
  | '\x0d' => some 'r'
  | '\x1b' => some 'e'
  | '"' => some '"'
  | '\\' => some '\\'
  | '\u0085' => some 'N'
  | '\u2028' => some 'L'
  | '\u2029' => some 'P'
  | _ => none

/-- A character between double quotes. -/
def writeEscaped (c : Char) : List Char :=
  if isPrintable c && !isBreak c && c != '"' && c != '\\' then [c]
  else
    match escapeLetter? c with
    | some letter => ['\\', letter]
    | none =>
      let n := c.toNat
      if n ≤ 0xFF then '\\' :: 'x' :: hexOfWidth n 2
      else if n ≤ 0xFFFF then '\\' :: 'u' :: hexOfWidth n 4
      else '\\' :: 'U' :: hexOfWidth n 8

/-- The lines of a literal block. `fresh` tells whether a line begins here. -/
def writeLines (indent : Nat) (fresh : Bool) : List Char → List Char
  | [] => []
  | c :: rest =>
    if isBreak c then c :: writeLines indent true rest
    else (if fresh then spaces indent else []) ++ c :: writeLines indent false rest

/-- The header of a literal block: the step of indentation if the first line does not show it, and
what becomes of the breaks at the end. -/
def literalHeader (text : List Char) : List Char :=
  let step := if text.head?.any fun c => isSpace c || isBreak c then ['2'] else []
  let chomping :=
    match text.reverse with
    | [] => ['-']
    | [c] => if isBreak c then ['+'] else ['-']
    | c :: d :: _ => if !isBreak c then ['-'] else if isBreak d then ['+'] else []
  '|' :: step ++ chomping

/-- A text in one of the forms, with the end of its last line. Lines after the first are indented. -/
def writeAs (indent : Nat) (text : List Char) : Form → List Char
  | .plain => text ++ ['\n']
  | .single => '\'' :: writeSingle indent false text ++ ['\n']
  | .double => '"' :: text.flatMap writeEscaped ++ ['"', '\n']
  | .literal =>
    literalHeader text ++ '\n' :: writeLines indent true text ++
      (if text.getLast?.any isBreak then [] else ['\n'])

/-- A text as a scalar, with the end of its last line. -/
def writeScalar (indent : Nat) (text : String) : List Char :=
  writeAs indent text.toList (formOf text.toList)

/-- A member of a mapping whose value is a text. The mapping stands at a column. -/
def writeMember (column : Nat) (name text : String) : List Char :=
  name.toList ++ ':' :: ' ' :: writeScalar (column + 2) text

/-- The elements of a sequence at the beginning of a line, after the key and the colon. -/
def writeElements {α : Type} (write : α → List Char) (elements : List α) : List Char :=
  if elements.isEmpty then [' ', '[', ']', '\n']
  else '\n' :: elements.flatMap fun e => '-' :: ' ' :: write e

/-- A member of the outermost mapping whose value is a sequence. -/
def writeSequence {α : Type} (name : String) (write : α → List Char) (elements : List α) :
    List Char :=
  name.toList ++ ':' :: writeElements write elements

end Fieldwise.Yaml
