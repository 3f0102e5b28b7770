import Fieldwise.Binary.Lists
import Fieldwise.Builder
import Fieldwise.Json.Decode
import Fieldwise.Json.Value
import Fieldwise.Yaml.Decode
import Fieldwise.Yaml.Scalar.Write

/-!
# Records of rule sets

A record holds a rule set as three lists of texts: the fields, the patterns and the templates of its
rules. It can be written as JSON, as YAML and as bytes, and read back. Not every record is one of a
rule set.
-/

namespace Fieldwise

/-- Rules as three lists. -/
structure Record where
  fieldIds : List String
  patterns : List String
  templates : List String
  deriving BEq, DecidableEq, Repr, Inhabited

namespace Record

/-! ### Rule sets -/

/-- The record of some rules. -/
def ofSources (sources : List RuleSource) : Record where
  fieldIds := sources.map (·.field.text)
  patterns := sources.map (·.pattern)
  templates := sources.map (·.template)

/-- The rules of a record, up to the end of its shortest list. -/
def sources (r : Record) : List RuleSource :=
  (r.fieldIds.zip (r.patterns.zip r.templates)).map fun (field, pattern, template) =>
    ⟨⟨field⟩, pattern, template⟩

/-- The number of rules, if the lists agree and are not empty. -/
def shape (r : Record) : Except Error Nat :=
  let n := r.fieldIds.length
  if r.patterns.length ≠ n ∨ r.templates.length ≠ n then
    .error (.malformedRuleSet (.lengthsDiffer n r.patterns.length r.templates.length))
  else if n = 0 then .error (.malformedRuleSet .empty)
  else .ok n

/-- Builds the rule set of a record. -/
def build (r : Record) : Attempt Error RuleSet := do
  let n ← .ofExcept r.shape
  log .debug LogTarget.record ("Decoding rule set with " ++ toString n ++ " rule(s).")
  match r.sources with
  | [] => throw (.malformedRuleSet .empty)
  | first :: rest => RuleSet.ofSources first rest

/-! ### Written forms -/

/-- The names of the lists. -/
def fieldNames : List String := ["field_ids", "patterns", "templates"]

/-- The record of three lists. -/
def ofLists : List (List String) → Record
  | [fieldIds, patterns, templates] => ⟨fieldIds, patterns, templates⟩
  | _ => default

/-- The record as JSON. -/
def toJson (r : Record) : String :=
  let list (strings : List String) : Json := .array (strings.map .string)
  Json.pretty (.object
    [("field_ids", list r.fieldIds), ("patterns", list r.patterns), ("templates", list r.templates)])

/-- The record that a JSON text holds. -/
def ofJson (text : String) : Except Error Record :=
  match Json.decodeLists "RuleSetRecord" fieldNames text with
  | .ok lists => .ok (ofLists lists)
  | .error e => .error (.undecodable (.json e))

/-- The record as YAML. -/
def toYaml (r : Record) : String :=
  String.ofList (
    Yaml.writeSequence "field_ids" (Yaml.writeScalar 2) r.fieldIds ++
    Yaml.writeSequence "patterns" (Yaml.writeScalar 2) r.patterns ++
    Yaml.writeSequence "templates" (Yaml.writeScalar 2) r.templates)

/-- The lists of a record that have been read. -/
structure Parts where
  fieldIds : Option (List String) := none
  patterns : Option (List String) := none
  templates : Option (List String) := none

/-- Reads a record from a YAML document. -/
def decoder (d : Yaml.Document) : Yaml.Decoder Record :=
  d.members "RuleSetRecord" ({} : Parts)
    (fun parts name =>
      match name with
      | "field_ids" =>
        some (Yaml.Document.field name parts.fieldIds (d.list d.text) fun v =>
          { parts with fieldIds := some v })
      | "patterns" =>
        some (Yaml.Document.field name parts.patterns (d.list d.text) fun v =>
          { parts with patterns := some v })
      | "templates" =>
        some (Yaml.Document.field name parts.templates (d.list d.text) fun v =>
          { parts with templates := some v })
      | _ => none)
    fun parts => do
      let fieldIds ← Yaml.required "field_ids" parts.fieldIds
      let patterns ← Yaml.required "patterns" parts.patterns
      let templates ← Yaml.required "templates" parts.templates
      .ok ⟨fieldIds, patterns, templates⟩

/-- The record that a YAML text holds. -/
def ofYaml (text : String) : Except Error Record :=
  (Yaml.decode decoder text).mapError fun e => .undecodable (.yaml e)

/-- The record as bytes. -/
def toBytes (r : Record) : List UInt8 := Binary.encodeLists [r.fieldIds, r.patterns, r.templates]

/-- The record that some bytes hold. -/
def ofBytes (bytes : List UInt8) : Except Error Record :=
  match Binary.decodeLists 3 bytes with
  | .ok lists => .ok (ofLists lists)
  | .error e => .error (.undecodable (.binary e))

end Record

namespace RuleSet

/-- The record of a rule set. -/
def toRecord (s : RuleSet) : Record := .ofSources (s.rules.map Rule.source)

/-- The rule set whose record a JSON text holds. -/
def ofJson (text : String) : Attempt Error RuleSet := do (← .ofExcept (Record.ofJson text)).build

/-- The rule set whose record a YAML text holds. -/
def ofYaml (text : String) : Attempt Error RuleSet := do (← .ofExcept (Record.ofYaml text)).build

/-- The rule set whose record some bytes hold. -/
def ofBytes (bytes : List UInt8) : Attempt Error RuleSet := do
  (← .ofExcept (Record.ofBytes bytes)).build

end RuleSet

end Fieldwise
