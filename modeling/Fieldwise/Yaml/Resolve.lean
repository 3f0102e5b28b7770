import Fieldwise.Decimal.Shortest
import Fieldwise.Text.Hex
import Fieldwise.Text.Quoted
import Fieldwise.Yaml.Node

/-!
# What plain scalars stand for

A plain scalar stands for nothing, a truth value, a number or a text, by the way it is written.
-/

namespace Fieldwise.Yaml

/-- Whether a text stands for nothing. -/
def isNull (text : List Char) : Bool :=
  ["null", "Null", "NULL", "~"].contains (String.ofList text)

/-- The truth value that a text stands for. -/
def readBool? (text : List Char) : Option Bool :=
  let text := String.ofList text
  if ["true", "True", "TRUE"].contains text then some true
  else if ["false", "False", "FALSE"].contains text then some false
  else none

/-- Drops a sign. -/
def dropSign : List Char → List Char
  | '-' :: cs => cs
  | '+' :: cs => cs
  | cs => cs

/-- Drops a plus sign. -/
def dropPlus : List Char → List Char
  | '+' :: cs => cs
  | cs => cs

/-- Whether a text begins with a sign. -/
def isSigned (text : List Char) : Bool := text.head? == some '-' || text.head? == some '+'

/-- Digits with a zero before them, which are a text and no number. -/
def isPaddedNumber (text : List Char) : Bool :=
  let digits := dropSign text
  1 < digits.length && digits.head? == some '0' && digits.all Char.isDigit

/-! ### Whole numbers -/

/-- The number that digits of a base give. There must be one. -/
def readDigits? (base : Nat) (digits : List Char) : Option Nat :=
  if digits.isEmpty then none
  else digits.foldlM (fun n d => (Hex.digitValue? d).bind fun v =>
    if v < base then some (n * base + v) else none) 0

/-- The base that a letter after a zero gives, and the digits after it. -/
def basedDigits? : List Char → Option (Nat × List Char)
  | '0' :: 'x' :: digits => some (16, digits)
  | '0' :: 'o' :: digits => some (8, digits)
  | '0' :: 'b' :: digits => some (2, digits)
  | _ => none

/-- A number that has no more than a certain value. -/
def atMost (bound : Nat) (n : Option Nat) : Option Nat := n.filter (· ≤ bound)

/-- The whole number that a text stands for if it is not negative. A base may be given. -/
def readUnsigned? (bound : Nat) (text : List Char) : Option Nat :=
  let unsigned := dropPlus text
  let based := (basedDigits? unsigned).bind fun (base, digits) => atMost bound (readDigits? base digits)
  match based with
  | some n => some n
  | none =>
    if isSigned unsigned || isPaddedNumber text then none else atMost bound (readDigits? 10 unsigned)

/-- The number that a text stands for if a minus sign is before it, as what is below zero. A base may
be given. -/
def readNegative? (bound : Nat) : List Char → Option Nat
  | '-' :: digits =>
    let based := (basedDigits? digits).bind fun (base, digits) => atMost bound (readDigits? base digits)
    match based with
    | some n => some n
    | none => if isPaddedNumber digits then none else atMost bound (readDigits? 10 digits)
  | _ => none

/-- A whole number, by the least width in which it fits. -/
inductive WholeNumber where
  | word (n : Int)
  | doubleUnsigned (n : Nat)
  | doubleSigned (n : Int)
  deriving BEq, DecidableEq, Repr

/-- The whole number that a text stands for. -/
def readWhole? (text : List Char) : Option WholeNumber :=
  (readUnsigned? (1 <<< 64 - 1) text).map (fun n => .word n) <|>
    (readNegative? (1 <<< 63) text).map (fun n => .word (-(n : Int))) <|>
    (readUnsigned? (1 <<< 128 - 1) text).map .doubleUnsigned <|>
    (readNegative? (1 <<< 127) text).map (fun n => .doubleSigned (-(n : Int)))

/-! ### Floating-point numbers -/

/-- The parts of a decimal: its digits as a number, and the power of ten by which they are to be
multiplied. -/
def readDecimal? (text : List Char) : Option (Nat × Int) :=
  let whole := text.takeWhile Char.isDigit
  let rest := text.drop whole.length
  let (fraction, rest) := match rest with
    | '.' :: rest => (rest.takeWhile Char.isDigit, rest.dropWhile Char.isDigit)
    | _ => ([], rest)
  let exponent? : Option Int := match rest with
    | [] => some 0
    | e :: rest =>
      if e = 'e' ∨ e = 'E' then
        (readDigits? 10 (dropSign rest)).map fun n => if rest.head? = some '-' then -(n : Int) else n
      else none
  do
    let exponent ← exponent?
    let digits ← readDigits? 10 (whole ++ fraction)
    return (digits, exponent - fraction.length)

/-- The floating-point number nearest to a decimal, unless it is too large. -/
def floatOf (digits : Nat) (exponent : Int) : Option Float :=
  if digits = 0 then some 0
  else
    let magnitude := exponent + (Nat.toDigits 10 digits).length
    if magnitude < -400 then some 0
    else if 400 < magnitude then none
    else
      let x := if 0 ≤ exponent then Float.ofScientific (digits * Nat.pow 10 exponent.toNat) false 0
        else Float.ofScientific digits true (-exponent).toNat
      if x.isInf then none else some x

/-- The floating-point number that a text stands for. -/
def readFloat? (text : List Char) : Option Float :=
  let unsigned := dropPlus text
  if text.head? = some '+' ∧ isSigned unsigned then none
  else if [".inf", ".Inf", ".INF"].contains (String.ofList unsigned) then some (1 / 0)
  else if ["-.inf", "-.Inf", "-.INF"].contains (String.ofList text) then some (-1 / 0)
  else if [".nan", ".NaN", ".NAN"].contains (String.ofList text) then some (0 / 0)
  else do
    let (digits, exponent) ← readDecimal? (dropSign unsigned)
    let x ← floatOf digits exponent
    return if unsigned.head? = some '-' then -x else x

/-! ### What a scalar stands for -/

/-- What a plain scalar stands for. -/
inductive Meaning where
  | null
  | bool (b : Bool)
  | whole (n : WholeNumber)
  | float (x : Float)
  | text

/-- What a plain scalar stands for. -/
def meaning (text : List Char) : Meaning :=
  if text.isEmpty || isNull text then .null
  else
    match readBool? text with
    | some b => .bool b
    | none =>
      match readWhole? text with
      | some n => .whole n
      | none =>
        if isPaddedNumber text then .text
        else
          match readFloat? text with
          | some x => .float x
          | none => .text

/-- A whole number in words. -/
def WholeNumber.describe : WholeNumber → String
  | .word n => "integer `" ++ toString n ++ "`"
  | .doubleUnsigned n => "integer `" ++ toString n ++ "` as u128"
  | .doubleSigned n => "integer `" ++ toString n ++ "` as i128"

/-- A floating-point number in words. -/
def describeFloat (x : Float) : String :=
  let text :=
    if x.isNaN then "NaN"
    else if x.isInf then (if x < 0 then "-inf" else "inf")
    else Decimal.render Decimal.positional x
  "floating point `" ++ text ++ "`"

/-- A text in words. -/
def describeText (text : List Char) : String := "string " ++ quote (String.ofList text)

/-- What a plain scalar stands for, in words. -/
def Meaning.describe (text : List Char) : Meaning → String
  | .null => "unit value"
  | .bool b => "boolean `" ++ (if b then "true" else "false") ++ "`"
  | .whole n => n.describe
  | .float x => describeFloat x
  | .text => describeText text

/-- The full name of a tag of the core schema. -/
def coreTag (name : String) : String := "tag:yaml.org,2002:" ++ name

/-- Why a scalar is not what is expected, if that is no scalar. A tag of the core schema must agree
with the text. -/
def Scalar.mismatch (s : Scalar) (expected : String) : Mismatch :=
  let found := .invalidType ((meaning s.text).describe s.text) expected
  let text := .invalidType (describeText s.text) expected
  let wrong (wanted : String) := .invalidValue (describeText s.text) wanted
  match s.tag with
  | none => if s.style = .plain then found else text
  | some tag =>
    if tag = coreTag "bool" then
      match readBool? s.text with
      | some b => .invalidType (Meaning.describe s.text (.bool b)) expected
      | none => wrong "a boolean"
    else if tag = coreTag "int" then
      match readWhole? s.text with
      | some n => .invalidType n.describe expected
      | none => wrong "an integer"
    else if tag = coreTag "float" then
      match readFloat? s.text with
      | some x => .invalidType (describeFloat x) expected
      | none => wrong "a float"
    else if tag = coreTag "null" then
      if isNull s.text then .invalidType "unit value" expected else wrong "null"
    else if tag.startsWith "!" ∧ s.style = .plain then found
    else text

end Fieldwise.Yaml
