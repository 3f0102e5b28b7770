import Fieldwise.Text.Utf8

/-!
# What can be wrong with bytes

A `Binary.Error` says why bytes are no encoding of what is wanted.
-/

namespace Fieldwise.Binary

/-- What a length counts, which is what an error calls its integer. -/
inductive LengthKind where
  | items
  | bytes
  deriving BEq, DecidableEq, Repr

/-- The integer type of a length, as errors name it. -/
def LengthKind.name : LengthKind → String
  | .items => "Usize"
  | .bytes => "U64"

/-- Why bytes are refused: they end too early, a length is wider than any length can be, a string is
no UTF-8, or bytes are left over. -/
inductive Error where
  | unexpectedEnd (missing : Nat)
  | tooWide (kind : LengthKind) (reserved : Bool)
  | notUtf8 (cause : Utf8.Error)
  | trailing (count : Nat)
  deriving BEq, DecidableEq, Repr

/-- Why bytes are refused, in words. -/
def Error.message : Error → String
  | .unexpectedEnd missing => "UnexpectedEnd \x7b additional: " ++ toString missing ++ " \x7d"
  | .tooWide kind reserved =>
    "InvalidIntegerType \x7b expected: " ++ kind.name ++ ", found: " ++
      (if reserved then "Reserved" else "U128") ++ " \x7d"
  | .notUtf8 cause =>
    let length := match cause.faulty with
      | some n => "Some(" ++ toString n ++ ")"
      | none => "None"
    "Utf8 \x7b inner: Utf8Error \x7b valid_up_to: " ++ toString cause.validUpTo ++
      ", error_len: " ++ length ++ " \x7d \x7d"
  | .trailing count => toString count ++ " trailing byte(s) after rule set"

end Fieldwise.Binary
