import Fieldwise.Binary.Error
import Fieldwise.Field
import Fieldwise.Json.Error
import Fieldwise.Pattern.Basic
import Fieldwise.Yaml.Error

/-!
# What can go wrong with rule sets

An `Error` is a cause, and `Error.message` its wording. A `Report` is what a whole task fails with: a
cause, and what was being done when it arose.
-/

namespace Fieldwise

/-- Why a record is no rule set: its lists differ in length, or they are empty. -/
inductive Malformation where
  | lengthsDiffer (fields patterns templates : Nat)
  | empty
  deriving BEq, DecidableEq, Repr

/-- The malformation in words. -/
def Malformation.message : Malformation → String
  | .lengthsDiffer fields patterns templates =>
    "sequence lengths differ: " ++ toString fields ++ " field ids, " ++ toString patterns ++
      " patterns, " ++ toString templates ++ " templates"
  | .empty => "at least one rule is required"

/-- Why a text or some bytes are no record. -/
inductive DecodeError where
  | json (cause : Json.Error)
  | yaml (cause : Yaml.Error)
  | binary (cause : Binary.Error)
  deriving BEq, DecidableEq, Repr

/-- Why there is no record, in words. -/
def DecodeError.message : DecodeError → String
  | .json cause => cause.message
  | .yaml cause => cause.message
  | .binary cause => cause.message

/-- What can go wrong with a rule set. -/
inductive Error where
  | invalidPattern (field : FieldId) (cause : PatternError)
  | builderFinalized
  | fieldNotFound (field : FieldId)
  | malformedRuleSet (why : Malformation)
  | undecodable (why : DecodeError)
  deriving DecidableEq, Repr

/-- What is wrong, in words. -/
def Error.message : Error → String
  | .invalidPattern field cause =>
    "Failed to compile pattern for field '" ++ field.text ++ "': " ++ cause.message
  | .builderFinalized => "Already called build() on this builder"
  | .fieldNotFound field => "No value for field '" ++ field.text ++ "'"
  | .malformedRuleSet why => "Malformed rule set: " ++ why.message
  | .undecodable why => "Failed to (de)serialize rule set: " ++ why.message

/-- The cause behind an error that is more than its detail, in words. -/
def Error.source? : Error → Option String
  | .invalidPattern _ cause => some cause.message
  | _ => none

/-- Why a file could not be read or written. -/
inductive FileError where
  | missing
  | isDirectory
  | notDirectory
  | notUtf8
  | unusable (reason : String)
  deriving BEq, DecidableEq, Repr

/-- The reason in words. -/
def FileError.message : FileError → String
  | .missing => "No such file or directory (os error 2)"
  | .isDirectory => "Is a directory (os error 21)"
  | .notDirectory => "Not a directory (os error 20)"
  | .notUtf8 => "stream did not contain valid UTF-8"
  | .unusable reason => reason

/-- Why a task fails. -/
inductive Cause where
  | rules (error : Error)
  | noRules
  | yaml (error : Yaml.Error)
  | file (error : FileError)
  | notUtf8 (error : Utf8.Error)
  deriving DecidableEq, Repr

/-- A cause in words, and behind it the cause of the cause if it has one. -/
def Cause.messages : Cause → List String
  | .rules error => error.message :: error.source?.toList
  | .noRules => ["Rule configuration contains no rules."]
  | .yaml error => [error.message]
  | .file error => [error.message]
  | .notUtf8 error => [error.message]

/-- What a task fails with: what was being done, the outermost first, and the cause. -/
structure Report where
  contexts : List String
  cause : Cause
  deriving DecidableEq, Repr

/-- The report in words, from the outermost context to the innermost cause. -/
def Report.message (r : Report) : String :=
  ": ".intercalate (r.contexts ++ r.cause.messages)

/-- The report of a cause that arose within no context. -/
def Report.ofCause (cause : Cause) : Report := ⟨[], cause⟩

/-- Adds an outer context. -/
def Report.within (context : String) (r : Report) : Report :=
  { r with contexts := context :: r.contexts }

/-- The report of an error that arose within no context. -/
def Report.ofError (error : Error) : Report := .ofCause (.rules error)

end Fieldwise
