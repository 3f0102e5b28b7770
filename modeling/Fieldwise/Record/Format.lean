import Fieldwise.Record

/-!
# Formats of records

The three forms in which a record is kept, under one name each.
-/

namespace Fieldwise

/-- The forms of a record. -/
inductive RecordFormat where
  | json
  | yaml
  | binary
  deriving BEq, DecidableEq, Repr

namespace Record

/-- A record in one of its forms. JSON ends with its line. -/
def encode (r : Record) : RecordFormat → List UInt8
  | .json => Utf8.encodeString (r.toJson ++ "\n")
  | .yaml => Utf8.encodeString r.toYaml
  | .binary => r.toBytes

/-- The text of some bytes. -/
def textOf (bytes : List UInt8) : Except Report String :=
  (Utf8.decodeString bytes).mapError fun e =>
    (Report.ofCause (.notUtf8 e)).within "Record is not valid UTF-8"

/-- The record that some bytes hold in one of its forms. -/
def decode (format : RecordFormat) (bytes : List UInt8) : Except Report Record :=
  match format with
  | .json => do (ofJson (← textOf bytes)).mapError Report.ofError
  | .yaml => do (ofYaml (← textOf bytes)).mapError Report.ofError
  | .binary => (ofBytes bytes).mapError Report.ofError

end Record

/-- The rule set whose record some bytes hold in one of its forms. -/
def RuleSet.decode (format : RecordFormat) (bytes : List UInt8) : Attempt Report RuleSet := do
  let record ← .ofExcept (Record.decode format bytes)
  record.build.mapError fun e => (Report.ofError e).within "Rejected rule record"

end Fieldwise
