/-!
# What can be wrong with the text of a pattern

A `Fault` is one thing that is wrong with the text of a pattern, together with the part of the text
that it concerns. `Fault.render` shows the pattern with carets under that part and under a second
part, where the fault refers to one.
-/

namespace Fieldwise.Pattern

/-- A part of a pattern's text, by the offsets of its first character and of the one after it. -/
structure Span where
  start : Nat
  stop : Nat
  deriving BEq, DecidableEq, Repr, Inhabited

/-- The part that holds one character. -/
def Span.char (pos : Nat) : Span := ⟨pos, pos + 1⟩

/-- The place before a character. -/
def Span.point (pos : Nat) : Span := ⟨pos, pos⟩

/-- The kinds of faults. The faults about something said twice hold where it was said first. -/
inductive FaultKind where
  | classEscapeInvalid
  | classRangeInvalid
  | classRangeLiteral
  | classUnclosed
  | countEmpty
  | countTooLarge
  | countUnclosed
  | countInvalid
  | hexEmpty
  | hexInvalid
  | hexInvalidDigit
  | escapeUnfinished
  | escapeUnrecognized
  | flagDanglingNegation
  | flagDuplicate (first : Span)
  | flagRepeatedNegation (first : Span)
  | flagUnfinished
  | flagUnrecognized
  | groupNameDuplicate (first : Span)
  | groupNameEmpty
  | groupNameInvalid
  | groupNameUnfinished
  | groupUnclosed
  | groupUnopened
  | nestedTooDeep (limit : Nat)
  | repetitionMissing
  | wordBoundaryUnclosed
  | wordBoundaryUnrecognized
  | wordBoundaryUnfinished
  | propertyInvalid
  | backreference
  | lookAround
  | unicodeNotAllowed
  | invalidUtf8
  | propertyUnknown
  | propertyValueUnknown
  deriving BEq, DecidableEq, Repr, Inhabited

/-- One thing that is wrong with the text of a pattern, and where. -/
structure Fault where
  kind : FaultKind
  span : Span
  deriving BEq, DecidableEq, Repr, Inhabited

/-- What is wrong, in words. -/
def FaultKind.message : FaultKind → String
  | .classEscapeInvalid => "invalid escape sequence found in character class"
  | .classRangeInvalid => "invalid character class range, the start must be <= the end"
  | .classRangeLiteral => "invalid range boundary, must be a literal"
  | .classUnclosed => "unclosed character class"
  | .countEmpty => "repetition quantifier expects a valid decimal"
  | .countTooLarge => "decimal literal invalid"
  | .countUnclosed => "unclosed counted repetition"
  | .countInvalid => "invalid repetition count range, the start must be <= the end"
  | .hexEmpty => "hexadecimal literal empty"
  | .hexInvalid => "hexadecimal literal is not a Unicode scalar value"
  | .hexInvalidDigit => "invalid hexadecimal digit"
  | .escapeUnfinished => "incomplete escape sequence, reached end of pattern prematurely"
  | .escapeUnrecognized => "unrecognized escape sequence"
  | .flagDanglingNegation => "dangling flag negation operator"
  | .flagDuplicate _ => "duplicate flag"
  | .flagRepeatedNegation _ => "flag negation operator repeated"
  | .flagUnfinished => "expected flag but got end of regex"
  | .flagUnrecognized => "unrecognized flag"
  | .groupNameDuplicate _ => "duplicate capture group name"
  | .groupNameEmpty => "empty capture group name"
  | .groupNameInvalid => "invalid capture group character"
  | .groupNameUnfinished => "unclosed capture group name"
  | .groupUnclosed => "unclosed group"
  | .groupUnopened => "unopened group"
  | .nestedTooDeep limit =>
    "exceed the maximum number of nested parentheses/brackets (" ++ toString limit ++ ")"
  | .repetitionMissing => "repetition operator missing expression"
  | .wordBoundaryUnclosed =>
    "special word boundary assertion is either unclosed or contains an invalid character"
  | .wordBoundaryUnrecognized =>
    "unrecognized special word boundary assertion, valid choices are: start, end, start-half " ++
      "or end-half"
  | .wordBoundaryUnfinished =>
    "found either the beginning of a special word boundary or a bounded repetition on a \\b " ++
      "with an opening brace, but no closing brace"
  | .propertyInvalid => "invalid Unicode character class"
  | .backreference => "backreferences are not supported"
  | .lookAround => "look-around, including look-ahead and look-behind, is not supported"
  | .unicodeNotAllowed => "Unicode not allowed here"
  | .invalidUtf8 => "pattern can match invalid UTF-8"
  | .propertyUnknown => "Unicode property not found"
  | .propertyValueUnknown => "Unicode property value not found"

/-- The place that a fault refers back to. -/
def FaultKind.first? : FaultKind → Option Span
  | .flagDuplicate s | .flagRepeatedNegation s | .groupNameDuplicate s => some s
  | _ => none

/-! ### Showing a fault in its pattern -/

/-- The lines of a text, without their line feeds and without a carriage return before one. A line
feed at the end begins no further line. -/
def lines (line : List Char) : List Char → List (List Char)
  | [] => if line.isEmpty then [] else [line.reverse]
  | '\n' :: cs =>
    (match line with
      | '\r' :: before => before.reverse
      | _ => line.reverse) :: lines [] cs
  | c :: cs => lines (c :: line) cs

/-- A place in a text: line and column, both from 1 on. -/
structure Place where
  line : Nat
  column : Nat
  deriving BEq, DecidableEq, Repr

/-- The place of the character at an offset, counted on from the place `p` of the first. -/
def placeFrom (p : Place) : Nat → List Char → Place
  | 0, _ => p
  | _, [] => p
  | n + 1, c :: cs => placeFrom (if c == '\n' then ⟨p.line + 1, 1⟩ else ⟨p.line, p.column + 1⟩) n cs

/-- The place of the character at an offset. -/
def place (text : List Char) (offset : Nat) : Place := placeFrom ⟨1, 1⟩ offset text

/-- A span's two ends as places. -/
def Span.places (text : List Char) (s : Span) : Place × Place :=
  (place text s.start, place text s.stop)

/-- Extends a row of carets, which has reached column `row.length`, by those under one span. A span
without extent has one caret. -/
def addCarets (row : List Char) (s : Place × Place) : List Char :=
  let blank := List.replicate (s.1.column - 1 - row.length) ' '
  row ++ blank ++ List.replicate (max 1 (s.2.column - s.1.column)) '^'

/-- A number, set to the right in `width` columns. -/
def padLeft (width n : Nat) : List Char :=
  let digits := (toString n).toList
  List.replicate (width - digits.length) ' ' ++ digits

/-- The pattern's lines, each with its number if there are several, and under each line the carets
of the spans that lie in it. -/
def notate (width : Nat) (spans : List (Place × Place)) :
    (number : Nat) → List (List Char) → List (List Char)
  | _, [] => []
  | number, line :: rest =>
    let margin := if width = 0 then "    ".toList else padLeft width number ++ ": ".toList
    let here := spans.filter fun s => s.1.line == number
    let notes :=
      if here.isEmpty then []
      else [List.replicate margin.length ' ' ++ here.foldl addCarets []]
    (margin ++ line) :: notes ++ notate width spans (number + 1) rest

/-- Where a span runs over several lines. -/
def describePlaces (s : Place × Place) : String :=
  "on line " ++ toString s.1.line ++ " (column " ++ toString s.1.column ++ ") through line " ++
    toString s.2.line ++ " (column " ++ toString (s.2.column - 1) ++ ")"

/-- Shows a fault in the pattern that has it: the pattern with carets under what is concerned, and
what is wrong. A pattern of several lines stands between two rules, its lines numbered; a span over
several lines is described in words. -/
def Fault.render (pattern : String) (fault : Fault) : String :=
  let text := pattern.toList
  let spans := (fault.span :: fault.kind.first?.toList).mergeSort
    fun a b => a.start < b.start || (a.start == b.start && a.stop ≤ b.stop)
  let places := spans.map (Span.places text)
  let oneLine := places.filter fun s => s.1.line == s.2.line
  let several := places.filter fun s => s.1.line != s.2.line
  let body := lines [] text
  let count := body.length + (if text.getLast? == some '\n' then 1 else 0)
  let width := if count ≤ 1 then 0 else (toString count).length
  let notated := (notate width oneLine 1 body).flatMap (· ++ ['\n'])
  let rule := List.replicate 79 '~' ++ ['\n']
  let shown :=
    if text.contains '\n' then
      rule ++ notated ++ rule ++
        (if several.isEmpty then []
         else (String.intercalate "\n" (several.map describePlaces)).toList ++ ['\n'])
    else notated
  "regex parse error:\n" ++ String.ofList shown ++ "error: " ++ fault.kind.message

end Fieldwise.Pattern
