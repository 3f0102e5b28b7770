import Fieldwise.Failure
import Fieldwise.RuleSet

/-!
# Applying rule sets

Applying a rule set asks for the value of each rule's field, in the order of the rules, and joins what
the rules make of them. A rule that cannot be applied adds nothing and is reported; a field without a
value ends the whole.
-/

namespace Fieldwise

/-- The joined text, and the rules that added nothing to it. -/
structure Outcome where
  text : String
  failures : List Failure
  deriving BEq, DecidableEq, Repr

/-- Whether no rule was skipped. -/
def Outcome.isComplete (o : Outcome) : Bool := o.failures.isEmpty

namespace RuleSet

variable {m : Type → Type} [Monad m]

/-- Applies one rule, at a place among the rules, and adds what comes of it to the outcome. -/
def applyRule (d : Disclosure) (find : Finder m) (index : Nat) (rule : Rule) (done : Outcome) :
    ExceptT Error (LoggingT m) Outcome := do
  match ← find rule.field with
  | none =>
    log .warn LogTarget.engine ("No value for field '" ++ rule.field.text ++ "'")
    throw (.fieldNotFound rule.field)
  | some value =>
    match rule.substitute value with
    | .ok text =>
      logSubstitution d rule.field value text
      return { done with text := done.text ++ text }
    | .error e =>
      let failure := Failure.ofRule index rule e value
      logFailure failure
      return { done with failures := done.failures ++ [failure] }

/-- Applies rules, of which the first stands at a place among the rules. -/
def applyFrom (d : Disclosure) (find : Finder m) (index : Nat) (done : Outcome) :
    List Rule → ExceptT Error (LoggingT m) Outcome
  | [] => return done
  | rule :: rest => do
    let done ← applyRule d find index rule done
    applyFrom d find (index + 1) done rest

/-- Applies the rules to the values that a finder gives. -/
def apply (s : RuleSet) (d : Disclosure) (find : Finder m) :
    ExceptT Error (LoggingT m) Outcome := do
  log .debug LogTarget.engine ("Applying " ++ toString s.size ++ " field rule(s).")
  let outcome ← applyFrom d find 0 ⟨"", []⟩ s.rules
  log .debug LogTarget.engine
    ("Apply finished: " ++ toString (Utf8.size outcome.text) ++ " byte(s) produced, " ++
      toString outcome.failures.length ++ " rule(s) skipped.")
  return outcome

/-- Applies the rules, without a report on those that were skipped. -/
def applyText (s : RuleSet) (d : Disclosure) (find : Finder m) : ExceptT Error (LoggingT m) String :=
  Outcome.text <$> s.apply d find

end RuleSet

end Fieldwise
