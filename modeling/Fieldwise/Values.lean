import Fieldwise.Field
import Fieldwise.Files
import Fieldwise.Yaml.Decode

/-!
# Collecting field values

Values come from a file that maps names to texts, in YAML or JSON, and from assignments, which win over
the file and over earlier ones.
-/

namespace Fieldwise.Values

/-- The values that a text gives. -/
def ofYaml (text : String) : Except Yaml.Error Values :=
  Yaml.decode (fun d => d.texts) text

/-- The values that the file at a path gives. -/
def load (read : FileReader) (path : String) : Except Report Values := do
  let text ← (read.readText path).mapError fun e =>
    (Report.ofCause (.file e)).within ("Failed to read values file " ++ path)
  (ofYaml text).mapError fun e =>
    (Report.ofCause (.yaml e)).within ("Failed to parse values file " ++ path)

/-- Sets values one after another. -/
def insertAll (values : Values) (assignments : List (String × String)) : Values :=
  assignments.foldl (fun values (name, value) => values.insert name value) values

/-- The values of a file, if there is one, and of assignments. -/
def collect (read : FileReader) (path : Option String) (assignments : List (String × String)) :
    Except Report Values := do
  let values ← match path with
    | some path => load read path
    | none => .ok []
  .ok (insertAll values assignments)

end Fieldwise.Values
