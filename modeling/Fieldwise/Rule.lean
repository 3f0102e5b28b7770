import Fieldwise.Error
import Fieldwise.Log
import Fieldwise.Template.Expand

/-!
# Rules

A rule takes the value of a field and replaces what its pattern matches by what its template makes of
it. `RuleSource` is a rule as it is written; compiling its pattern makes it a `Rule`.
-/

namespace Fieldwise

/-- A rule as it is written. -/
structure RuleSource where
  field : FieldId
  pattern : String
  template : String
  deriving BEq, ReflBEq, LawfulBEq, DecidableEq, Repr, Inhabited

/-- A rule whose pattern is compiled. -/
structure Rule where
  field : FieldId
  pattern : Pattern
  template : String
  /-- The pattern is the one that its text compiles to. -/
  compiled : Pattern.compile pattern.source = .ok pattern

namespace Rule

/-- The rule as it is written. -/
def source (r : Rule) : RuleSource := ⟨r.field, r.pattern.source, r.template⟩

/-- The number of capture groups of the rule's pattern. -/
def groupCount (r : Rule) : Nat := r.pattern.groupCount

/-- What the rule makes of a value. -/
def substitute (r : Rule) (value : String) : Except Template.Error String :=
  replaceAll r.pattern r.template value

end Rule

/-- A compiled pattern keeps the text that it was compiled from. -/
theorem Pattern.source_of_compile {text : String} {p : Pattern} (h : Pattern.compile text = .ok p) :
    p.source = text := by
  obtain ⟨expr, names, -, rfl⟩ := Pattern.exists_parse_of_compile h
  rfl

/-- Compiles the pattern of a rule, without a word in the log. -/
def RuleSource.compile? (s : RuleSource) : Except Error Rule :=
  match h : Pattern.compile s.pattern with
  | .ok p => .ok ⟨s.field, p, s.template, Pattern.source_of_compile h ▸ h⟩
  | .error e => .error (.invalidPattern s.field e)

/-- Compiles the pattern of a rule. -/
def RuleSource.compile (s : RuleSource) : Attempt Error Rule := do
  let rule ← .ofExcept s.compile?
  log .debug LogTarget.compiler
    ("Rule for field '" ++ s.field.text ++ "' compiled successfully (" ++
      toString rule.groupCount ++ " groups).")
  return rule

end Fieldwise
