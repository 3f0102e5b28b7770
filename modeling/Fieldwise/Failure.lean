import Fieldwise.Digest.Sha256
import Fieldwise.Field
import Fieldwise.Log
import Fieldwise.Rule
import Fieldwise.Text.Utf8

/-!
# Failures and what they disclose

A rule whose template cannot be expanded is reported as a `Failure`. Neither failures nor, unless it
is allowed, log records hold field values: a failure holds a fingerprint of the value and the log its
length.
-/

namespace Fieldwise

/-- The text whose digest stands for the value of a field. -/
def fingerprintText (field : FieldId) (value : String) : String := field.text ++ ":" ++ value

/-- A digest that stands for the value of a field. -/
def fingerprint (field : FieldId) (value : String) : String :=
  Sha256.hexDigest (Utf8.encodeString (fingerprintText field value))

/-- What is shown in the place of a value: nothing if it is short, its number of bytes otherwise. -/
def redact (value : String) : String :=
  let n := Utf8.size value
  if n ≤ 8 then "[REDACTED]" else "[REDACTED: " ++ toString n ++ " chars]"

/-- Whether the log may hold field values. -/
inductive Disclosure where
  | redacted
  | allowed
  deriving BEq, DecidableEq, Repr

/-- What the log shows of a value. -/
def Disclosure.show (d : Disclosure) (value : String) : String :=
  match d with
  | .redacted => redact value
  | .allowed => value

/-- A rule that was skipped: its place among the rules, the rule, why it could not be applied, and a
fingerprint of the value. -/
structure Failure where
  index : Nat
  field : FieldId
  pattern : String
  template : String
  kind : String
  message : String
  valueHash : String
  deriving BEq, DecidableEq, Repr

/-- The failure of the rule at a place for a value. -/
def Failure.ofRule (index : Nat) (r : Rule) (error : Template.Error) (value : String) : Failure where
  index
  field := r.field
  pattern := r.pattern.source
  template := r.template
  kind := error.kind
  message := error.message
  valueHash := fingerprint r.field value

/-- The failure in words, for a reader who does not know the rules. -/
def Failure.describe (f : Failure) : String :=
  "rule #" ++ toString (f.index + 1) ++ " (field '" ++ f.field.text ++ "') skipped: cannot apply /" ++
    f.pattern ++ "/ -> '" ++ f.template ++ "': " ++ f.message

variable {m : Type → Type} [MonadStateOf Log m]

/-- Logs that a rule was applied. -/
def logSubstitution (d : Disclosure) (field : FieldId) (value text : String) : m Unit :=
  log .debug LogTarget.diagnostics
    ("Field '" ++ field.text ++ "' substituted: Original='" ++ d.show value ++ "', Result='" ++
      d.show text ++ "'")

/-- Logs that a rule was skipped. -/
def logFailure (f : Failure) : m Unit :=
  log .warn LogTarget.diagnostics
    ("Cannot apply " ++ f.pattern ++ "->" ++ f.template ++ " to field '" ++ f.field.text ++ "': " ++
      f.kind)

end Fieldwise
