import Fieldwise.Template.Token

/-!
# Numbers in machine words

`readNumber` as it goes about a number that is kept in a machine word. A digit is put behind the number by a
product and a sum, each of which is there only if it fits into a word; where there is none the number ends.
Whatever comes of it, what is left of the text is yielded, too.
-/

namespace Fieldwise.Template.Number

/-- The product of two words, unless it overflows. -/
def times? (a b : USize) : Option USize :=
  if a.toBitVec.umulOverflow b.toBitVec then none else some (a * b)

/-- The sum of two words, unless it overflows. -/
def plus? (a b : USize) : Option USize :=
  if a.toBitVec.uaddOverflow b.toBitVec then none else some (a + b)

/-- The value of a decimal digit. -/
def digit? (c : Char) : Option USize := if c.isDigit then some (.ofNat (digitValue c)) else none

/-- The number with one more digit, if there is one and the number is still at most `count`. -/
def extend? (count number : USize) (c : Char) : Option USize := do
  let digit ← digit? c
  let shifted ← times? number 10
  let longer ← plus? shifted digit
  if longer ≤ count then some longer else none

/-- Reads on a number as long as it is at most `count`. -/
def extend (count number : USize) : List Char → USize × List Char
  | [] => (number, [])
  | c :: cs =>
    match extend? count number c with
    | some longer => extend count longer cs
    | none => (number, c :: cs)

/-- Reads the number of a group, whose first digit has been taken off the text. Yields what comes of it, and
what is left of the text. -/
def read (count : USize) (first : Char) (text : List Char) : Except Error USize × List Char :=
  let digit := (digit? first).getD 0
  if digit ≤ count then
    let (number, rest) := extend count digit text
    (.ok number, rest)
  else (.error (.noSuchGroup digit.toNat), text)

end Fieldwise.Template.Number
