import Fieldwise.Apply
import Fieldwise.Builder
import Fieldwise.Files
import Fieldwise.Yaml.Decode
import Fieldwise.Yaml.Scalar.Write

/-!
# Rule files

A rule file is a YAML text that lists rules, each with a description if its author gave it one. It can
be checked for rules that will build but probably do not do what was meant.
-/

namespace Fieldwise

/-- A rule of a rule file. -/
structure RuleSpec extends RuleSource where
  description : Option String
  deriving BEq, DecidableEq, Repr, Inhabited

/-- The content of a rule file. -/
structure RuleFile where
  rules : List RuleSpec
  deriving BEq, DecidableEq, Repr, Inhabited

namespace RuleFile

/-! ### Reading -/

/-- The parts of a rule that have been read. -/
structure Parts where
  field : Option String := none
  pattern : Option String := none
  template : Option String := none
  description : Option (Option String) := none

/-- Reads a rule. -/
def ruleDecoder (d : Yaml.Document) : Yaml.Decoder RuleSpec :=
  d.members "RuleSpec" ({} : Parts)
    (fun parts name =>
      match name with
      | "field" =>
        some (Yaml.Document.field name parts.field d.text fun v => { parts with field := some v })
      | "pattern" =>
        some (Yaml.Document.field name parts.pattern d.text fun v => { parts with pattern := some v })
      | "template" =>
        some (Yaml.Document.field name parts.template d.text fun v => { parts with template := some v })
      | "description" =>
        some (Yaml.Document.field name parts.description (d.optional d.text) fun v =>
          { parts with description := some v })
      | _ => none)
    fun parts => do
      let field ← Yaml.required "field" parts.field
      let pattern ← Yaml.required "pattern" parts.pattern
      let template ← Yaml.required "template" parts.template
      .ok ⟨⟨⟨field⟩, pattern, template⟩, parts.description.getD none⟩

/-- Reads the content of a rule file. -/
def decoder (d : Yaml.Document) : Yaml.Decoder RuleFile :=
  d.members "TransformationConfig" (none : Option (List RuleSpec))
    (fun rules name =>
      match name with
      | "rules" => some (Yaml.Document.field name rules (d.list (ruleDecoder d)) some)
      | _ => none)
    fun rules => (Yaml.required "rules" rules).map RuleFile.mk

/-- The content of a rule file, from its text. -/
def ofYaml (text : String) : Except Report RuleFile :=
  (Yaml.decode decoder text).mapError fun e => .ofCause (.yaml e)

/-- The content of the rule file at a path. -/
def load (read : FileReader) (path : String) : Attempt Report RuleFile := do
  log .info LogTarget.config ("Loading rules from: " ++ path)
  let text ← .ofExcept <| (read.readText path).mapError fun e =>
    (Report.ofCause (.file e)).within ("Failed to read config file " ++ path)
  let file ← .ofExcept <| (ofYaml text).mapError fun r =>
    r.within ("Failed to parse config file " ++ path)
  log .info LogTarget.config
    ("Loaded " ++ toString file.rules.length ++ " rules from file " ++ path ++ ".")
  return file

/-! ### Writing -/

/-- A rule as an entry of the list. -/
def writeRule (r : RuleSpec) : List Char :=
  Yaml.writeMember 2 "field" r.field.text ++
    Yaml.spaces 2 ++ Yaml.writeMember 2 "pattern" r.pattern ++
    Yaml.spaces 2 ++ Yaml.writeMember 2 "template" r.template ++
    match r.description with
    | none => []
    | some text => Yaml.spaces 2 ++ Yaml.writeMember 2 "description" text

/-- The text of a rule file. -/
def toYaml (f : RuleFile) : String :=
  String.ofList (Yaml.writeSequence "rules" writeRule f.rules)

/-- The rule file of a rule set. -/
def ofRuleSet (s : RuleSet) : RuleFile := ⟨s.rules.map fun r => ⟨r.source, none⟩⟩

/-! ### Building -/

/-- What is being done when a rule is added. -/
def ruleContext (field : FieldId) : String := "Invalid rule for field '" ++ field.text ++ "'"

/-- Names the rule that an error is about. -/
def within {α : Type} (field : FieldId) (attempt : Attempt Error α) : Attempt Report α :=
  attempt.mapError fun e => (Report.ofError e).within (ruleContext field)

/-- Adds rules to a builder. -/
def addRules (b : Builder) : List RuleSpec → Attempt Report Builder
  | [] => return b
  | rule :: rest => do
    let b ← within rule.field (b.add rule.toRuleSource)
    addRules b rest

/-- Builds the rule set of a rule file. -/
def build (f : RuleFile) : Attempt Report RuleSet :=
  match f.rules with
  | [] => throw (.ofCause .noRules)
  | first :: rest => do
    let b ← within first.field (Builder.start first.toRuleSource)
    let b ← addRules b rest
    let (rules, _) ← b.build.mapError Report.ofError
    log .debug LogTarget.config ("Built engine from config: " ++ rules.describe)
    return rules

/-! ### Checking -/

/-- What is probably not meant: a second rule for a field, a pattern that is empty, or a template that
cannot be expanded. -/
inductive Warning where
  | repeatedField (field : FieldId)
  | emptyPattern (field : FieldId)
  | badTemplate (field : FieldId) (template : String) (error : Template.Error)
  deriving DecidableEq, Repr

/-- The warning in words. -/
def Warning.message : Warning → String
  | .repeatedField field =>
    "Field '" ++ field.text ++ "' appears more than once; the last rule replaces the earlier one."
  | .emptyPattern field => "Field '" ++ field.text ++ "' has an empty `pattern`."
  | .badTemplate field template error =>
    "Field '" ++ field.text ++ "': template '" ++ template ++ "' cannot be expanded (" ++
      error.message ++ "); the field will be skipped whenever its pattern matches."

/-- The warning about a rule's template. A pattern that is none is not the template's fault. -/
def templateWarning? (r : RuleSpec) : Option Warning :=
  match Pattern.compileWithin Pattern.defaultSizeLimit r.pattern with
  | .error _ => none
  | .ok p =>
    match Template.validate p.groups r.template with
    | .ok _ => none
    | .error e => some (.badTemplate r.field r.template e)

/-- The warnings about a rule, with the fields of the rules before it. -/
def ruleWarnings (seen : List FieldId) (r : RuleSpec) : List Warning :=
  (if seen.contains r.field then [.repeatedField r.field] else []) ++
    (if r.pattern.isEmpty then [.emptyPattern r.field] else []) ++ (templateWarning? r).toList

/-- The warnings about rules, with the fields of the rules before them. -/
def warningsFrom (seen : List FieldId) : List RuleSpec → List Warning
  | [] => []
  | r :: rest => ruleWarnings seen r ++ warningsFrom (r.field :: seen) rest

/-- The warnings about a rule file. -/
def warnings (f : RuleFile) : List Warning := warningsFrom [] f.rules

/-- Checks a rule file. -/
def lint (f : RuleFile) : Logging (List String) := do
  let found := f.warnings.map Warning.message
  log .debug LogTarget.config ("Lint finished with " ++ toString found.length ++ " warning(s).")
  return found

/-! ### Applying -/

/-- Builds the rule set of a rule file and applies it to some values. -/
def apply (f : RuleFile) (d : Disclosure) (values : Values) : Attempt Report Outcome := do
  let rules ← f.build
  Attempt.mapError
    (fun e => (Report.ofError e).within "Failed to apply field substitutions")
    (rules.apply d values.finder)

/-- Builds the rule set of a rule file and applies it, without a report on the rules that were skipped. -/
def applyText (f : RuleFile) (d : Disclosure) (values : Values) : Attempt Report String :=
  Outcome.text <$> f.apply d values

end RuleFile

end Fieldwise
