import Std.Data.HashMap
import Fieldwise.Rule

/-!
# Rule sets

A rule set holds rules in order, and an index of the places of the rules by their fields. Adding a
rule for a field that the index knows replaces the rule at that place; any other rule goes to the end.
-/

namespace Fieldwise

/-- Rules in their order, and their places by their fields. -/
structure RuleSet where
  rules : List Rule
  index : Std.HashMap FieldId Nat

namespace RuleSet

/-- No rules. -/
def empty : RuleSet := ⟨[], ∅⟩

/-- Adds a rule, in the place that the index has for its field or else at the end. -/
def insert (s : RuleSet) (rule : Rule) : RuleSet :=
  match s.index[rule.field]? with
  | some position => { s with rules := s.rules.set position rule }
  | none => ⟨s.rules ++ [rule], s.index.insert rule.field s.rules.length⟩

/-- The fields of the rules, in their order. -/
def fields (s : RuleSet) : List FieldId := s.rules.map Rule.field

/-- The number of rules. -/
def size (s : RuleSet) : Nat := s.rules.length

/-- The rule for a field: the one at the place that the index has for it. -/
def find? (s : RuleSet) (field : FieldId) : Option Rule :=
  s.index[field]?.bind fun position => s.rules[position]?

/-- A rule in words. -/
def describeRule (r : Rule) : String :=
  r.field.text ++ ":/" ++ r.pattern.source ++ "/->" ++ r.template

/-- The rule set in words. -/
def describe (s : RuleSet) : String :=
  "SubstitutionEngine: [fields=" ++ ", ".intercalate (s.rules.map describeRule) ++ "]"

end RuleSet

end Fieldwise
