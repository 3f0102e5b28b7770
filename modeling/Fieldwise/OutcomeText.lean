import Fieldwise.Apply
import Fieldwise.Json.Value

/-!
# Outcomes as text

An outcome is written as its text alone, or as a JSON document that also tells which rules were
skipped.
-/

namespace Fieldwise

/-- A failure as a JSON document. -/
def Failure.toJson (f : Failure) : Json :=
  .object [("index", .number f.index), ("field_id", .string f.field.text),
    ("pattern", .string f.pattern), ("template", .string f.template), ("kind", .string f.kind),
    ("message", .string f.message), ("value_hash", .string f.valueHash)]

/-- An outcome as a JSON document. -/
def Outcome.toJson (o : Outcome) : Json :=
  .object [("text", .string o.text), ("skipped", .array (o.failures.map Failure.toJson))]

/-- An outcome as text, with the end of its line. -/
def Outcome.write (o : Outcome) (json : Bool) : String :=
  (if json then o.toJson.pretty else o.text) ++ "\n"

end Fieldwise
