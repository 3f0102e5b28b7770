import Fieldwise.Apply
import Fieldwise.Proofs.Logging
import Mathlib.Data.List.Basic

/-!
# What applying a rule set comes to

Applying a rule set does nothing with its finder but ask it for the fields of the rules, one after
another, until one has no value (`Finder.ask`). What comes of it depends on the values that it gave and
on nothing else, in any monad that a finder lives in (`RuleSet.apply_run`). For a finder that only looks
up, the outcome is `RuleSet.reference`: the first field without a value if there is one, and else what
every rule makes of the value of its field.
-/

namespace Fieldwise

/-! ### What a finder is asked -/

namespace Finder

/-- Asks for fields, one after another, until one has no value, and keeps the values. -/
def ask {m : Type → Type} [Monad m] (find : Finder m) : List FieldId → m (List String)
  | [] => pure []
  | field :: rest => do
    match ← find field with
    | none => return []
    | some value => return value :: (← ask find rest)

/-- The finder that looks up, and keeps what it has been asked. -/
def traced (lookup : Finder Id) : Finder (StateM (List FieldId)) := fun field => do
  modify (· ++ [field])
  return lookup field

variable {lookup : Finder Id} {field : FieldId} {rest : List FieldId}

theorem ask_cons_of_none (h : lookup field = none) : lookup.ask (field :: rest) = [] := by
  rw [ask, h]
  rfl

theorem ask_cons_of_some {value : String} (h : lookup field = some value) :
    lookup.ask (field :: rest) = (value :: lookup.ask rest : List String) := by
  rw [ask, h]
  rfl

/-- The fields are asked for in their order, up to the first one without a value. -/
theorem ask_traced (lookup : Finder Id) (fields asked : List FieldId) :
    StateT.run (lookup.traced.ask fields) asked =
      (lookup.ask fields,
        asked ++ fields.take (fields.findIdx (fun field => (lookup field).isNone) + 1)) := by
  induction fields generalizing asked with
  | nil => rw [List.take_nil, List.append_nil]; rfl
  | cons field rest ih =>
    rw [ask, StateT.run_bind]
    cases hvalue : lookup field with
    | none =>
      rw [ask_cons_of_none hvalue, List.findIdx_cons, hvalue]
      show StateT.run (match lookup field with | none => _ | some value => _) (asked ++ [field]) = _
      rw [hvalue]
      rfl
    | some value =>
      rw [ask_cons_of_some hvalue, List.findIdx_cons, hvalue]
      show StateT.run (match lookup field with | none => _ | some value => _) (asked ++ [field]) = _
      rw [hvalue]
      show StateT.run (lookup.traced.ask rest >>= fun values => pure (value :: values))
        (asked ++ [field]) = _
      rw [StateT.run_bind, ih, List.append_assoc]
      rfl

end Finder

/-! ### Rules and their values -/

/-- Adds to an outcome what a rule makes of a value. -/
def Outcome.add (done : Outcome) (index : Nat) (rule : Rule) (value : String) : Outcome :=
  match rule.substitute value with
  | .ok text => { done with text := done.text ++ text }
  | .error e => { done with failures := done.failures ++ [Failure.ofRule index rule e value] }

theorem Outcome.add_of_ok {done : Outcome} {index : Nat} {rule : Rule} {value text : String}
    (h : rule.substitute value = .ok text) :
    done.add index rule value = { done with text := done.text ++ text } := by
  simp only [Outcome.add, h]

theorem Outcome.add_of_error {done : Outcome} {index : Nat} {rule : Rule} {value : String}
    {e : Template.Error} (h : rule.substitute value = .error e) :
    done.add index rule value =
      { done with failures := done.failures ++ [Failure.ofRule index rule e value] } := by
  simp only [Outcome.add, h]

namespace RuleSet

/-- What comes of rules if their fields have given these values. The first rule for which no value is
left ends the whole. -/
def applied (index : Nat) (done : Outcome) : List Rule → List String → Except Error Outcome
  | [], _ => .ok done
  | rule :: _, [] => .error (.fieldNotFound rule.field)
  | rule :: rules, value :: values => applied (index + 1) (done.add index rule value) rules values

/-- What is logged about a rule whose field has a value, or has none. -/
def ruleRecords (d : Disclosure) (index : Nat) (rule : Rule) : Option String → Log
  | none => [⟨.warn, LogTarget.engine, "No value for field '" ++ rule.field.text ++ "'"⟩]
  | some value =>
    match rule.substitute value with
    | .ok text => (logSubstitution d rule.field value text : Logging Unit).run'.2
    | .error e => (logFailure (Failure.ofRule index rule e value) : Logging Unit).run'.2

/-- What is logged about rules whose fields have given these values. -/
def recordsFrom (d : Disclosure) (index : Nat) : List Rule → List String → Log
  | [], _ => []
  | rule :: _, [] => ruleRecords d index rule none
  | rule :: rules, value :: values =>
    ruleRecords d index rule (some value) ++ recordsFrom d (index + 1) rules values

variable {m : Type → Type} [Monad m] [LawfulMonad m]

/-- Applying a rule asks for its field, once. -/
theorem applyRule_run (d : Disclosure) (find : Finder m) (index : Nat) (rule : Rule) (done : Outcome)
    (before : Log) :
    StateT.run (ExceptT.run (applyRule d find index rule done)) before =
      (fun value? =>
        (match value? with
          | none => .error (.fieldNotFound rule.field)
          | some value => .ok (done.add index rule value),
          before ++ ruleRecords d index rule value?)) <$> find rule.field := by
  rw [map_eq_pure_bind, applyRule, ExceptT.run_bind, StateT.run_bind, run_lift, bind_map_left]
  refine bind_congr fun value? => ?_
  cases value? with
  | none => exact run_bind_of_ok (run_log _ _ _ before)
  | some value =>
    show StateT.run (ExceptT.run (match rule.substitute value with | .ok _ => _ | .error _ => _))
      before = pure (.ok (done.add index rule value), before ++ ruleRecords d index rule (some value))
    simp only [Outcome.add, ruleRecords]
    cases rule.substitute value with
    | ok text => exact run_bind_of_ok (run_log _ _ _ before)
    | error e => exact run_bind_of_ok (run_log _ _ _ before)

/-- Applying rules asks for their fields, and what comes of it is determined by the values. -/
theorem applyFrom_run (d : Disclosure) (find : Finder m) (index : Nat) (done : Outcome)
    (rules : List Rule) (before : Log) :
    StateT.run (ExceptT.run (applyFrom d find index done rules)) before =
      (fun values => (applied index done rules values, before ++ recordsFrom d index rules values)) <$>
        find.ask (rules.map Rule.field) := by
  induction rules generalizing index done before with
  | nil =>
    rw [List.map_nil, Finder.ask, map_pure, recordsFrom, List.append_nil]
    rfl
  | cons rule rest ih =>
    rw [applyFrom, ExceptT.run_bind, StateT.run_bind, applyRule_run, bind_map_left, List.map_cons,
      Finder.ask, map_bind]
    refine bind_congr fun value? => ?_
    cases value? with
    | none => rw [map_pure]; rfl
    | some value =>
      -- the rest goes on from the outcome and the log that this rule leaves
      show StateT.run
        (ExceptT.run (applyFrom d find (index + 1) (done.add index rule value) rest)) _ = _
      rw [ih, map_bind, ← bind_pure_comp]
      refine bind_congr fun values => ?_
      rw [map_pure, List.append_assoc]
      rfl

/-- What is logged about a whole application whose fields have given these values. -/
def records (s : RuleSet) (d : Disclosure) (values : List String) : Log :=
  ⟨.debug, LogTarget.engine, "Applying " ++ toString s.size ++ " field rule(s)."⟩ ::
    recordsFrom d 0 s.rules values ++
    match applied 0 ⟨"", []⟩ s.rules values with
    | .ok outcome =>
      [⟨.debug, LogTarget.engine, "Apply finished: " ++ toString (Utf8.size outcome.text) ++
        " byte(s) produced, " ++ toString outcome.failures.length ++ " rule(s) skipped."⟩]
    | .error _ => []

/-- Applying a rule set asks for its fields, and what comes of it and what is logged are determined by the
values. -/
theorem apply_run (s : RuleSet) (d : Disclosure) (find : Finder m) (before : Log) :
    StateT.run (ExceptT.run (s.apply d find)) before =
      (fun values => (applied 0 ⟨"", []⟩ s.rules values, before ++ s.records d values)) <$>
        find.ask s.fields := by
  rw [apply, run_bind_of_ok (run_log _ _ _ before), ExceptT.run_bind, StateT.run_bind, applyFrom_run,
    bind_map_left, ← bind_pure_comp]
  refine bind_congr fun values => ?_
  unfold records
  cases applied 0 ⟨"", []⟩ s.rules values with
  | error e =>
    show pure _ = _
    simp
  | ok outcome =>
    refine (run_bind_of_ok (run_log _ _ _ _)).trans ?_
    show pure _ = _
    simp

/-! ### Finders that look up -/

/-- What a rule makes of the value of its field, if it can be applied to it. -/
def rendered? (lookup : Finder Id) (rule : Rule) : Option String :=
  match lookup rule.field with
  | none => none
  | some value => (rule.substitute value).toOption

/-- The failure of the rule at a place, if it cannot be applied to the value of its field. -/
def failure? (lookup : Finder Id) (index : Nat) (rule : Rule) : Option Failure :=
  match lookup rule.field with
  | none => none
  | some value =>
    match rule.substitute value with
    | .ok _ => none
    | .error e => some {
        index
        field := rule.field
        pattern := rule.pattern.source
        template := rule.template
        kind := e.kind
        message := e.message
        valueHash := fingerprint rule.field value }

/-- What should come of applying a rule set: an error for the first field without a value if there is one,
and else what the rules make of the values, joined, and the failures of the others. -/
def reference (s : RuleSet) (lookup : Finder Id) : Except Error Outcome :=
  match s.fields.find? fun field => (lookup field).isNone with
  | some field => .error (.fieldNotFound field)
  | none => .ok {
      text := String.join (s.rules.filterMap (rendered? lookup))
      failures := s.rules.zipIdx.filterMap fun p => failure? lookup p.2 p.1 }

variable {lookup : Finder Id} {rule : Rule} {value : String}

theorem rendered?_eq (h : lookup rule.field = some value) :
    rendered? lookup rule = (rule.substitute value).toOption := by
  simp only [rendered?, h]

theorem failure?_of_ok (h : lookup rule.field = some value) (index : Nat) {text : String}
    (hok : rule.substitute value = .ok text) : failure? lookup index rule = none := by
  simp only [failure?, h, hok]

theorem failure?_of_error (h : lookup rule.field = some value) (index : Nat) {e : Template.Error}
    (he : rule.substitute value = .error e) :
    failure? lookup index rule = some (Failure.ofRule index rule e value) := by
  simp only [failure?, h, he]
  rfl

/-- What comes of the values that a finder gives when it is asked for the fields of rules. -/
theorem applied_ask (index : Nat) (done : Outcome) (rules : List Rule) :
    applied index done rules (lookup.ask (rules.map Rule.field)) =
      match (rules.map Rule.field).find? fun field => (lookup field).isNone with
      | some field => .error (.fieldNotFound field)
      | none => .ok {
          text := done.text ++ String.join (rules.filterMap (rendered? lookup))
          failures := done.failures ++
            (rules.zipIdx index).filterMap fun p => failure? lookup p.2 p.1 } := by
  induction rules generalizing index done with
  | nil => simp [applied]
  | cons rule rest ih =>
    rw [List.map_cons]
    cases hvalue : lookup rule.field with
    | none =>
      rw [Finder.ask_cons_of_none hvalue, List.find?_cons_of_pos (by rw [hvalue]; rfl)]
      rfl
    | some value =>
      rw [Finder.ask_cons_of_some hvalue,
        List.find?_cons_of_neg (by rw [hvalue]; exact Bool.false_ne_true), applied, ih]
      split
      · rfl
      · -- no field lacks a value, so what this rule comes to stands before the rest
        rw [List.zipIdx_cons, List.filterMap_cons, List.filterMap_cons, rendered?_eq hvalue]
        cases hsubst : rule.substitute value with
        | ok text =>
          rw [failure?_of_ok hvalue index hsubst, Outcome.add_of_ok hsubst, String.append_assoc,
            ← String.join_cons]
          rfl
        | error e =>
          rw [failure?_of_error hvalue index hsubst, Outcome.add_of_error hsubst, List.append_assoc]
          rfl

theorem applied_ask_fields (s : RuleSet) (lookup : Finder Id) :
    applied 0 ⟨"", []⟩ s.rules (lookup.ask s.fields) = s.reference lookup := by
  rw [fields, applied_ask, reference, String.empty_append, List.nil_append]
  rfl

/-- Applying a rule set to a finder that looks up logs what the values that it finds give cause to. -/
theorem apply_logs (s : RuleSet) (d : Disclosure) (lookup : Finder Id) :
    Attempt.Logs (s.apply d lookup) (s.reference lookup) (s.records d (lookup.ask s.fields)) := by
  intro before
  rw [← applied_ask_fields]
  exact apply_run s d lookup before

/-- Applying a rule set to a finder that looks up comes to what it should. -/
theorem apply_yields (s : RuleSet) (d : Disclosure) (lookup : Finder Id) :
    Attempt.Yields (s.apply d lookup) (s.reference lookup) := (s.apply_logs d lookup).yields

/-- Applying a rule set without a report comes to the same text or the same error. -/
theorem applyText_yields (s : RuleSet) (d : Disclosure) (lookup : Finder Id) :
    Attempt.Yields (s.applyText d lookup) ((s.reference lookup).map Outcome.text) :=
  (s.apply_yields d lookup).map Outcome.text

/-- A failure holds the place of its rule. -/
theorem index_of_failure? {index : Nat} {f : Failure} (h : failure? lookup index rule = some f) :
    f.index = index := by
  unfold failure? at h
  split at h
  · cases h
  · split at h <;> cases h
    rfl

/-- Failures are reported in the order of their rules, one for a rule. -/
theorem pairwise_failures {s : RuleSet} {outcome : Outcome} (h : s.reference lookup = .ok outcome) :
    outcome.failures.Pairwise fun f g => f.index < g.index := by
  unfold reference at h
  split at h
  · cases h
  · cases h
    have hplaces : s.rules.zipIdx.Pairwise fun p q => p.2 < q.2 := by
      rw [← List.pairwise_map, List.zipIdx_map_snd]
      exact List.pairwise_lt_range'
    refine hplaces.filterMap _ fun p q hlt f hf g hg => ?_
    rwa [index_of_failure? hf, index_of_failure? hg]

/-- Applying a rule set asks for its fields in their order, up to the first one without a value. -/
theorem apply_traced (s : RuleSet) (d : Disclosure) (lookup : Finder Id) (before : Log)
    (asked : List FieldId) :
    StateT.run (StateT.run (ExceptT.run (s.apply d lookup.traced)) before) asked =
      ((s.reference lookup, before ++ s.records d (lookup.ask s.fields)),
        asked ++ s.fields.take (s.fields.findIdx (fun field => (lookup field).isNone) + 1)) := by
  rw [apply_run, StateT.run_map, Finder.ask_traced, ← applied_ask_fields]
  rfl

/-- So does applying it without a report. -/
theorem applyText_traced (s : RuleSet) (d : Disclosure) (lookup : Finder Id) (before : Log)
    (asked : List FieldId) :
    StateT.run (StateT.run (ExceptT.run (s.applyText d lookup.traced)) before) asked =
      (((s.reference lookup).map Outcome.text, before ++ s.records d (lookup.ask s.fields)),
        asked ++ s.fields.take (s.fields.findIdx (fun field => (lookup field).isNone) + 1)) := by
  rw [applyText, ExceptT.run_map, StateT.run_map, StateT.run_map, apply_traced]
  rfl

section Reported

variable {s : RuleSet} {failure : Failure} {outcome : Outcome}

theorem failure?_eq_some_iff {index : Nat} :
    failure? lookup index rule = some failure ↔
      ∃ value e, lookup rule.field = some value ∧ rule.substitute value = .error e ∧
        Failure.ofRule index rule e value = failure := by
  constructor
  · intro h
    unfold failure? at h
    split at h
    · cases h
    · rename_i value hvalue
      split at h
      · cases h
      · rename_i e he
        exact ⟨value, e, hvalue, he, Option.some.inj h⟩
  · rintro ⟨value, e, hvalue, he, rfl⟩
    exact failure?_of_error hvalue index he

/-- What is reported is that rules cannot be applied to the values of their fields. -/
theorem mem_failures_iff (h : s.reference lookup = .ok outcome) :
    failure ∈ outcome.failures ↔
      ∃ i rule value e, s.rules[i]? = some rule ∧ lookup rule.field = some value ∧
        rule.substitute value = .error e ∧ Failure.ofRule i rule e value = failure := by
  unfold reference at h
  split at h
  · cases h
  · cases h
    simp only [List.mem_filterMap, Prod.exists, List.mk_mem_zipIdx_iff_getElem?, failure?_eq_some_iff]
    constructor
    · rintro ⟨rule, i, hrule, value, e, hfailure⟩
      exact ⟨i, rule, value, e, hrule, hfailure⟩
    · rintro ⟨i, rule, value, e, hrule, hfailure⟩
      exact ⟨rule, i, hrule, value, e, hfailure⟩

/-- Where all fields have values there is an outcome. -/
theorem exists_reference_eq_ok (h : ∀ field ∈ s.fields, (lookup field).isSome) :
    ∃ outcome, s.reference lookup = .ok outcome := by
  have hnone : s.fields.find? (fun field => (lookup field).isNone) = none := by
    rw [List.find?_eq_none]
    intro field hfield
    rw [Option.isNone_iff_eq_none, ← Option.not_isSome_iff_eq_none, not_not]
    exact h field hfield
  exact ⟨_, by rw [reference, hnone]⟩

/-- Nothing comes of a rule set but an outcome or an error for a field without a value. -/
theorem reference_eq_ok_or_fieldNotFound (s : RuleSet) (lookup : Finder Id) :
    (∃ outcome, s.reference lookup = .ok outcome) ∨
      ∃ field, s.reference lookup = .error (.fieldNotFound field) := by
  unfold reference
  split
  · exact .inr ⟨_, rfl⟩
  · exact .inl ⟨_, rfl⟩

end Reported

section Agreement

variable {m : Type → Type} [Monad m] {find find' : Finder m}

/-- Finders that agree on the fields of rules are asked and answer alike. -/
theorem applyFrom_congr {d : Disclosure} {rules : List Rule}
    (h : ∀ field ∈ rules.map Rule.field, find field = find' field) (index : Nat) (done : Outcome) :
    applyFrom d find index done rules = applyFrom d find' index done rules := by
  induction rules generalizing index done with
  | nil => rfl
  | cons rule rest ih =>
    obtain ⟨hrule, hrest⟩ := List.forall_mem_cons.mp h
    rw [applyFrom, applyFrom, applyRule, applyRule, hrule]
    exact bind_congr fun done => ih hrest (index + 1) done

/-- A finder counts for what it gives for the fields of the rules, and for nothing else. -/
theorem apply_congr {s : RuleSet} (h : ∀ field ∈ s.fields, find field = find' field) (d : Disclosure) :
    s.apply d find = s.apply d find' := by
  rw [apply, apply, applyFrom_congr h]

end Agreement

/-- Applying a rule set to whatever finder that looks up is as it should be: in what comes of it, with a
report and without, in the order of the failures and in what the finder is asked. Maps and functions are
such finders, and two of them that agree on the fields of the rules are as good as each other. -/
theorem apply_eq_reference (s : RuleSet) (d : Disclosure) (lookup : Finder Id) :
    Attempt.Yields (s.apply d lookup) (s.reference lookup) ∧
    Attempt.Yields (s.applyText d lookup) ((s.reference lookup).map Outcome.text) ∧
    (∀ outcome, s.reference lookup = .ok outcome →
      outcome.failures.Pairwise fun f g => f.index < g.index) ∧
    (∃ entries : Log, ∀ (before : Log) (asked : List FieldId),
      StateT.run (StateT.run (ExceptT.run (s.apply d lookup.traced)) before) asked =
        ((s.reference lookup, before ++ entries),
          asked ++ s.fields.take (s.fields.findIdx (fun field => (lookup field).isNone) + 1)) ∧
      StateT.run (StateT.run (ExceptT.run (s.applyText d lookup.traced)) before) asked =
        (((s.reference lookup).map Outcome.text, before ++ entries),
          asked ++ s.fields.take (s.fields.findIdx (fun field => (lookup field).isNone) + 1))) ∧
    ∀ lookup' : Finder Id, (∀ field ∈ s.fields, lookup field = lookup' field) →
      s.apply d lookup = s.apply d lookup' ∧ s.applyText d lookup = s.applyText d lookup' :=
  ⟨s.apply_yields d lookup, s.applyText_yields d lookup, fun _ => pairwise_failures,
    ⟨_, fun before asked =>
      ⟨s.apply_traced d lookup before asked, s.applyText_traced d lookup before asked⟩⟩, fun _ h =>
      ⟨apply_congr h d, congrArg (Outcome.text <$> ·) (apply_congr h d)⟩⟩

end RuleSet

end Fieldwise
