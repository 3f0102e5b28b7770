import Fieldwise.RuleSet

/-!
# Building rule sets

A builder takes one rule after another until it is asked for the rule set. From then on it refuses
everything. What is done to a builder is `Building`: it may fail, and the builder is there afterwards
all the same.
-/

namespace Fieldwise

/-- Whether a builder still takes rules. -/
inductive BuilderState where
  | opened
  | built
  deriving BEq, DecidableEq, Repr

/-- The rules that have been taken so far, and whether more are taken. -/
structure Builder extends RuleSet where
  state : BuilderState

/-- What is done to a builder. It logs and may fail, and what it has changed by then stays changed. -/
abbrev Building := ExceptT Error (StateT Builder Logging)

namespace Building

/-- Makes an attempt that has nothing to do with the builder. -/
def ofAttempt {α : Type} (a : Attempt Error α) : Building α := ExceptT.mk (StateT.lift (ExceptT.run a))

/-- What an action on a builder comes to: its result and the builder after it, if it does not fail. -/
def after {α : Type} (action : Building α) (b : Builder) : Attempt Error (α × Builder) :=
  ExceptT.mk do
    let (result, b) ← StateT.run (ExceptT.run action) b
    return result.map fun a => (a, b)

end Building

namespace Builder

/-- A builder that has taken no rule. -/
def empty : Builder := { RuleSet.empty with state := .opened }

/-- Whether the builder has been used up. -/
def isBuilt (b : Builder) : Bool := b.state == .built

/-- Fails if the builder has been used up. -/
def ensureOpen : Building Unit := do
  match (← get).state with
  | .opened => return ()
  | .built => throw .builderFinalized

/-- Logs that a rule takes the place of an earlier one. -/
def logReplacement (field : FieldId) (position : Nat) : Building Unit :=
  log .debug LogTarget.builder
    ("Field '" ++ field.text ++ "' registered again; replacing rule at position " ++
      toString position ++ ".")

/-- Compiles a rule and takes it. -/
def register (source : RuleSource) : Building Unit := do
  ensureOpen
  let rule ← Building.ofAttempt source.compile
  if let some position := (← get).index[rule.field]? then
    logReplacement rule.field position
  modify fun b => { b with toRuleSet := b.toRuleSet.insert rule }

/-- Gives away the rules that have been taken, and takes no more. -/
def freeze : Building RuleSet := do
  ensureOpen
  let rules := (← get).toRuleSet
  set { RuleSet.empty with state := BuilderState.built : Builder }
  log .debug LogTarget.builder
    ("Building substitution engine with " ++ toString rules.size ++ " rule(s).")
  return rules

/-- The builder after one more rule. -/
def add (source : RuleSource) (b : Builder) : Attempt Error Builder :=
  Prod.snd <$> (register source).after b

/-- A builder that holds one rule. -/
def start (source : RuleSource) : Attempt Error Builder := empty.add source

/-- The rule set of the rules that the builder holds, and the builder after that. -/
def build (b : Builder) : Attempt Error (RuleSet × Builder) := freeze.after b

/-- Adds several rules, one after another. -/
def addAll (b : Builder) (sources : List RuleSource) : Attempt Error Builder :=
  sources.foldlM (fun b source => b.add source) b

end Builder

/-- The rule set that one rule and then several others build. -/
def RuleSet.ofSources (first : RuleSource) (rest : List RuleSource) : Attempt Error RuleSet := do
  let b ← Builder.start first
  let b ← b.addAll rest
  let (rules, _) ← b.build
  return rules

end Fieldwise
