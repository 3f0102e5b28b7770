import Fieldwise.Mismatch

/-!
# What can be wrong with a JSON text

A `Json.Error` says what is wrong with a text and where: the line, and the number of bytes before the
place in that line.
-/

namespace Fieldwise.Json

/-- What can be wrong. -/
inductive ErrorKind where
  | eofInList
  | eofInObject
  | eofInString
  | eofInValue
  | expectedColon
  | expectedListCommaOrEnd
  | expectedObjectCommaOrEnd
  | expectedIdent
  | expectedValue
  | invalidEscape
  | invalidNumber
  | numberOutOfRange
  | controlCharacter
  | keyNotString
  | loneSurrogate
  | unfinishedEscape
  | trailingComma
  | trailingCharacters
  | mismatch (why : Mismatch)
  deriving BEq, DecidableEq, Repr

/-- What is wrong, in words. -/
def ErrorKind.message : ErrorKind → String
  | .eofInList => "EOF while parsing a list"
  | .eofInObject => "EOF while parsing an object"
  | .eofInString => "EOF while parsing a string"
  | .eofInValue => "EOF while parsing a value"
  | .expectedColon => "expected `:`"
  | .expectedListCommaOrEnd => "expected `,` or `]`"
  | .expectedObjectCommaOrEnd => "expected `,` or `\x7d`"
  | .expectedIdent => "expected ident"
  | .expectedValue => "expected value"
  | .invalidEscape => "invalid escape"
  | .invalidNumber => "invalid number"
  | .numberOutOfRange => "number out of range"
  | .controlCharacter =>
    "control character (\\u0000-\\u001F) found while parsing a string"
  | .keyNotString => "key must be a string"
  | .loneSurrogate => "lone leading surrogate in hex escape"
  | .unfinishedEscape => "unexpected end of hex escape"
  | .trailingComma => "trailing comma"
  | .trailingCharacters => "trailing characters"
  | .mismatch why => why.message

/-- What is wrong with a text, and where. -/
structure Error where
  kind : ErrorKind
  line : Nat
  column : Nat
  deriving BEq, DecidableEq, Repr

/-- What is wrong, with its place, in words. -/
def Error.message (e : Error) : String :=
  e.kind.message ++ " at line " ++ toString e.line ++ " column " ++ toString e.column

end Fieldwise.Json
