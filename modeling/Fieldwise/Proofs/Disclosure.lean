import Fieldwise.Proofs.Apply
import Fieldwise.Proofs.Builder
import Fieldwise.Proofs.Template.Validation
import Std.Data.String.ToNat

/-!
# What applying a rule set discloses

Where the log may not hold field values it holds what `redact` leaves of them, which is their number of
bytes if they are long (`redact_eq_iff`). So two lookups that redaction cannot tell apart
(`Rule.Indistinct`) leave the same records and, but for the fingerprints, the same failures. One step of
this is `ruleRecords_congr` for the records and `skips_add` for the failures; the rules are then
gone through in the order in which they are applied.

What is said of a rule that is skipped does not depend on any value at all. It is determined by the fault
of the rule's template (`Rule.fault?`), and this holds whether or not values may be disclosed.
-/

namespace Fieldwise

/-! ### What redaction reveals -/

/-- Redaction does not tell the texts apart: they have the same number of bytes, or both are short. -/
def RedactedAlike (v w : String) : Prop :=
  Utf8.size v = Utf8.size w ∨ Utf8.size v ≤ 8 ∧ Utf8.size w ≤ 8

theorem redact_of_le {v : String} (h : Utf8.size v ≤ 8) : redact v = "[REDACTED]" := if_pos h

theorem redact_of_lt {v : String} (h : 8 < Utf8.size v) :
    redact v = "[REDACTED: " ++ toString (Utf8.size v) ++ " chars]" := if_neg (Nat.not_le.mpr h)

/-- What stands for a short text never stands for a long one: it ends where the other goes on with a
colon. -/
theorem redact_ne {v w : String} (hv : Utf8.size v ≤ 8) (hw : 8 < Utf8.size w) : redact v ≠ redact w := by
  intro h
  rw [redact_of_le hv, redact_of_lt hw] at h
  have hchars := congrArg (fun s : String => s.toList[9]?) h
  simp [String.toList_append] at hchars

/-- Redaction reveals whether a text is short, and else its number of bytes, and nothing more. -/
theorem redact_eq_iff {v w : String} : redact v = redact w ↔ RedactedAlike v w := by
  unfold RedactedAlike
  rcases Nat.lt_or_ge 8 (Utf8.size v) with hv | hv <;> rcases Nat.lt_or_ge 8 (Utf8.size w) with hw | hw
  · rw [redact_of_lt hv, redact_of_lt hw, String.append_left_inj, String.append_right_inj,
      Nat.toString_eq_repr, Nat.toString_eq_repr, Nat.repr_inj]
    omega
  · have hne := (redact_ne hw hv).symm
    constructor
    · exact fun h => absurd h hne
    · omega
  · have hne := redact_ne hv hw
    constructor
    · exact fun h => absurd h hne
    · omega
  · rw [redact_of_le hv, redact_of_le hw]
    exact iff_of_true rfl (.inr ⟨hv, hw⟩)

/-! ### Rules that are skipped -/

namespace Rule

variable {rule : Rule} {v w : String} {e e' : Template.Error}

/-- What is wrong with the rule's template, if anything. No value has a say in it. -/
def fault? (rule : Rule) : Option Template.Error :=
  match Template.validate rule.pattern.groups rule.template with
  | .ok _ => none
  | .error e => some e

/-- A rule that cannot be applied to a value has its template to blame. -/
theorem fault?_of_substitute (h : rule.substitute v = .error e) : rule.fault? = some e := by
  have hfault := (replaceAll_eq_error_iff.mp h).2
  rw [fault?, hfault]

/-- Whatever values a rule cannot be applied to, it fails for the same reason. -/
theorem substitute_error_unique (h : rule.substitute v = .error e) (h' : rule.substitute w = .error e') :
    e = e' :=
  Option.some.inj ((fault?_of_substitute h).symm.trans (fault?_of_substitute h'))

/-- What the log says of a rule whose field has no value. -/
def absence (rule : Rule) : LogEntry :=
  ⟨.warn, LogTarget.engine, "No value for field '" ++ rule.field.text ++ "'"⟩

end Rule

namespace Failure

/-- A failure but for the fingerprint of the value. -/
def withoutHash (f : Failure) : Failure := { f with valueHash := "" }

/-- What the log says of a failure. -/
def warning (f : Failure) : LogEntry :=
  ⟨.warn, LogTarget.diagnostics, "Cannot apply " ++ f.pattern ++ "->" ++ f.template ++ " to field '" ++
    f.field.text ++ "': " ++ f.kind⟩

/-- The value counts for the fingerprint of a failure and for nothing else. -/
theorem withoutHash_ofRule (index : Nat) (rule : Rule) (e : Template.Error) (v w : String) :
    (ofRule index rule e v).withoutHash = (ofRule index rule e w).withoutHash := by
  rw [withoutHash, ofRule, withoutHash, ofRule]

theorem warning_withoutHash (f : Failure) : f.withoutHash.warning = f.warning := rfl

/-- The fingerprint is not logged, and neither is the value. -/
theorem warning_ofRule (index : Nat) (rule : Rule) (e : Template.Error) (v w : String) :
    (ofRule index rule e v).warning = (ofRule index rule e w).warning := by
  rw [← warning_withoutHash, withoutHash_ofRule index rule e v w, warning_withoutHash]

end Failure

/-- What is reported of the rule at a place when it is skipped, but for the fingerprint. There is nothing to
report if its template is not at fault. -/
def Rule.skip? (rule : Rule) (index : Nat) : Option Failure :=
  rule.fault?.map fun e => (Failure.ofRule index rule e "").withoutHash

theorem Rule.skip?_of_substitute {rule : Rule} {value : String} {e : Template.Error}
    (h : rule.substitute value = .error e) (index : Nat) :
    rule.skip? index = some (Failure.ofRule index rule e value).withoutHash := by
  rw [skip?, fault?_of_substitute h, Failure.withoutHash_ofRule index rule e value ""]
  rfl

/-- What was skipped, but for the fingerprints. -/
def Outcome.skips (o : Outcome) : List Failure := o.failures.map Failure.withoutHash

/-- What the log warns of. -/
def Log.warnings (entries : Log) : Log := entries.filter (·.level == .warn)

/-! ### Values that redaction does not tell apart -/

/-- Redaction does not tell apart what becomes of the rule with one value of its field and with the other:
there is none, or the rule is skipped, or it is applied to values that are alike with results that are
alike. -/
inductive Rule.Indistinct (rule : Rule) : Option String → Option String → Prop where
  | absent : rule.Indistinct none none
  | skipped {v w : String} {e e' : Template.Error} (hv : rule.substitute v = .error e)
      (hw : rule.substitute w = .error e') : rule.Indistinct (some v) (some w)
  | applied {v w text text' : String} (hv : rule.substitute v = .ok text)
      (hw : rule.substitute w = .ok text') (values : RedactedAlike v w)
      (results : RedactedAlike text text') : rule.Indistinct (some v) (some w)

namespace RuleSet

variable {d : Disclosure} {index : Nat} {rule : Rule} {v w text : String} {e : Template.Error}

theorem ruleRecords_of_ok (h : rule.substitute v = .ok text) :
    ruleRecords d index rule (some v) =
      [⟨.debug, LogTarget.diagnostics, "Field '" ++ rule.field.text ++ "' substituted: Original='" ++
        d.show v ++ "', Result='" ++ d.show text ++ "'"⟩] := by
  simp only [ruleRecords, h]
  rfl

theorem ruleRecords_of_error (h : rule.substitute v = .error e) :
    ruleRecords d index rule (some v) = [(Failure.ofRule index rule e v).warning] := by
  simp only [ruleRecords, h]
  rfl

/-- A step leaves the same records with values that redaction does not tell apart. -/
theorem ruleRecords_congr {v? w? : Option String} (h : rule.Indistinct v? w?) (index : Nat) :
    ruleRecords .redacted index rule v? = ruleRecords .redacted index rule w? := by
  cases h with
  | absent => rfl
  | skipped hv hw =>
    obtain rfl := Rule.substitute_error_unique hv hw
    rw [ruleRecords_of_error hv, ruleRecords_of_error hw, Failure.warning_ofRule]
  | applied hv hw values results =>
    rw [ruleRecords_of_ok hv, ruleRecords_of_ok hw]
    simp only [Disclosure.show, redact_eq_iff.mpr values, redact_eq_iff.mpr results]

/-- A step adds the same to what was skipped. -/
theorem skips_add {done done' : Outcome} (h : rule.Indistinct (some v) (some w))
    (hdone : done.skips = done'.skips) (index : Nat) :
    (done.add index rule v).skips = (done'.add index rule w).skips := by
  cases h with
  | skipped hv hw =>
    obtain rfl := Rule.substitute_error_unique hv hw
    rw [Outcome.skips, Outcome.skips] at hdone
    rw [Outcome.add_of_error hv, Outcome.add_of_error hw, Outcome.skips, Outcome.skips, List.map_append,
      List.map_append, hdone, List.map_singleton, List.map_singleton, Failure.withoutHash_ofRule]
  | applied hv hw _ _ =>
    rw [Outcome.add_of_ok hv, Outcome.add_of_ok hw]
    exact hdone

section TwoRuns

variable {lookup lookup' : Finder Id} {rules : List Rule}

/-- A field that redaction does not tell apart has a value in both lookups or in neither. -/
theorem isSome_eq_of_indistinct {v? w? : Option String} (h : rule.Indistinct v? w?) :
    v?.isSome = w?.isSome := by
  cases h <;> rfl

/-- Rules leave the same records, and the same failures but for the fingerprints. -/
theorem run_congr (h : ∀ rule ∈ rules, rule.Indistinct (lookup rule.field) (lookup' rule.field))
    (index : Nat) {done done' : Outcome} (hdone : done.skips = done'.skips) :
    recordsFrom .redacted index rules (lookup.ask (rules.map Rule.field)) =
        recordsFrom .redacted index rules (lookup'.ask (rules.map Rule.field)) ∧
      (applied index done rules (lookup.ask (rules.map Rule.field))).map Outcome.skips =
        (applied index done' rules (lookup'.ask (rules.map Rule.field))).map Outcome.skips := by
  induction rules generalizing index done done' with
  | nil => exact ⟨rfl, congrArg Except.ok hdone⟩
  | cons rule rest ih =>
    obtain ⟨hrule, hrest⟩ := List.forall_mem_cons.mp h
    rw [List.map_cons]
    cases hv : lookup rule.field with
    | none =>
      -- both runs end here, for want of the same value
      have hw : lookup' rule.field = none := by
        rw [← Option.not_isSome_iff_eq_none, ← isSome_eq_of_indistinct hrule, hv]
        exact Bool.false_ne_true
      rw [Finder.ask_cons_of_none hv, Finder.ask_cons_of_none hw]
      exact ⟨rfl, rfl⟩
    | some v =>
      obtain ⟨w, hw⟩ : ∃ w, lookup' rule.field = some w := by
        rw [← Option.isSome_iff_exists, ← isSome_eq_of_indistinct hrule, hv]
        rfl
      rw [hv, hw] at hrule
      obtain ⟨hrecords, hskips⟩ := ih hrest (index + 1) (skips_add hrule hdone index)
      rw [Finder.ask_cons_of_some hv, Finder.ask_cons_of_some hw, recordsFrom, recordsFrom,
        ruleRecords_congr hrule, hrecords]
      exact ⟨rfl, hskips⟩

end TwoRuns

/-! ### Warnings -/

section Warnings

variable (target message : String) (entries entries' : Log)

theorem warnings_debug :
    Log.warnings (⟨.debug, target, message⟩ :: entries) = entries.warnings := rfl

theorem warnings_append :
    Log.warnings (entries ++ entries') = entries.warnings ++ entries'.warnings :=
  List.filter_append entries entries'

end Warnings

/-- What a step warns of is the absence of a value or a failure, in the words of the rule alone. -/
theorem warning_of_mem_ruleRecords {v? : Option String} {entry : LogEntry}
    (h : entry ∈ ruleRecords d index rule v?) (hwarn : entry.level = .warn) :
    entry = rule.absence ∨ ∃ failure, rule.skip? index = some failure ∧ entry = failure.warning := by
  cases v? with
  | none => exact .inl (List.mem_singleton.mp h)
  | some v =>
    cases hv : rule.substitute v with
    | ok text =>
      rw [ruleRecords_of_ok hv, List.mem_singleton] at h
      rw [h] at hwarn
      cases hwarn
    | error e =>
      rw [ruleRecords_of_error hv, List.mem_singleton] at h
      exact .inr ⟨_, Rule.skip?_of_substitute hv index, h⟩

/-- So is what rules warn of. -/
theorem warning_of_mem_recordsFrom {rules : List Rule} {values : List String} {entry : LogEntry}
    (h : entry ∈ recordsFrom d index rules values) (hwarn : entry.level = .warn) :
    ∃ (i : Nat) (rule : Rule), rules[i]? = some rule ∧ (entry = rule.absence ∨
      ∃ failure, rule.skip? (index + i) = some failure ∧ entry = failure.warning) := by
  induction rules generalizing index values with
  | nil => cases values <;> cases h
  | cons rule rest ih =>
    cases values with
    | nil => exact ⟨0, rule, rfl, warning_of_mem_ruleRecords h hwarn⟩
    | cons value values =>
      rcases List.mem_append.mp h with hmem | hmem
      · exact ⟨0, rule, rfl, warning_of_mem_ruleRecords hmem hwarn⟩
      · obtain ⟨i, rule', hget, hentry⟩ := ih hmem
        rw [Nat.add_assoc, Nat.add_comm 1 i] at hentry
        exact ⟨i + 1, rule', hget, hentry⟩

/-- Where all fields have values, what is warned of is what is reported, failure by failure. -/
theorem warnings_of_applied {rules : List Rule} {values : List String} {done outcome : Outcome}
    (h : applied index done rules values = .ok outcome) :
    done.failures.map Failure.warning ++ (recordsFrom d index rules values).warnings =
      outcome.failures.map Failure.warning := by
  induction rules generalizing index values done with
  | nil =>
    cases h
    cases values <;> exact List.append_nil _
  | cons rule rest ih =>
    cases values with
    | nil => cases h
    | cons value values =>
      rw [← ih h, recordsFrom, warnings_append, ← List.append_assoc]
      cases hv : rule.substitute value with
      | ok text =>
        rw [Outcome.add_of_ok hv, ruleRecords_of_ok hv, warnings_debug]
        exact congrArg (· ++ _) (List.append_nil _)
      | error e =>
        rw [Outcome.add_of_error hv, ruleRecords_of_error hv, List.map_append]
        rfl

/-! ### Whole runs -/

section Runs

variable {s : RuleSet} {lookup lookup' : Finder Id}

/-- The records of two runs are the same if those of the rules are, and what they come to in the end. -/
theorem records_congr (h : ∀ rule ∈ s.rules, rule.Indistinct (lookup rule.field) (lookup' rule.field))
    (hsize : ∀ outcome outcome' : Outcome, s.reference lookup = .ok outcome →
      s.reference lookup' = .ok outcome' → Utf8.size outcome.text = Utf8.size outcome'.text) :
    s.records .redacted (lookup.ask s.fields) = s.records .redacted (lookup'.ask s.fields) ∧
      (s.reference lookup).map Outcome.skips = (s.reference lookup').map Outcome.skips := by
  have hstart : Outcome.skips ⟨"", []⟩ = Outcome.skips ⟨"", []⟩ := rfl
  obtain ⟨hrecords, hskips⟩ := run_congr h 0 hstart
  rw [← fields, applied_ask_fields, applied_ask_fields] at hskips
  refine ⟨?_, hskips⟩
  rw [records, records, fields, hrecords, ← fields, applied_ask_fields, applied_ask_fields]
  cases hv : s.reference lookup with
  | error e =>
    cases hw : s.reference lookup' with
    | error e' => rfl
    | ok outcome' => rw [hv, hw] at hskips; cases hskips
  | ok outcome =>
    cases hw : s.reference lookup' with
    | error e' => rw [hv, hw] at hskips; cases hskips
    | ok outcome' =>
      rw [hv, hw] at hskips
      have hlength : outcome.failures.length = outcome'.failures.length := by
        simpa [Outcome.skips] using congrArg List.length (Except.ok.inj hskips)
      simp only [hlength, hsize outcome outcome' hv hw]

/-- Whatever a run warns of is said in the words of a rule alone. -/
theorem warning_of_mem_records {values : List String} {entry : LogEntry} (h : entry ∈ s.records d values)
    (hwarn : entry.level = .warn) :
    ∃ (i : Nat) (rule : Rule), s.rules[i]? = some rule ∧ (entry = rule.absence ∨
      ∃ failure, rule.skip? i = some failure ∧ entry = failure.warning) := by
  rw [records] at h
  rcases List.mem_append.mp h with hmem | hmem
  · rcases List.mem_cons.mp hmem with rfl | hmem
    · cases hwarn
    · obtain ⟨i, rule, hget, hentry⟩ := warning_of_mem_recordsFrom hmem hwarn
      rw [Nat.zero_add] at hentry
      exact ⟨i, rule, hget, hentry⟩
  · -- the last record tells of the end of a run and is no warning
    split at hmem
    · rw [List.mem_singleton.mp hmem] at hwarn
      cases hwarn
    · cases hmem

/-- A run that comes to an outcome warns of the failures and of nothing else. -/
theorem warnings_of_reference {outcome : Outcome} (h : s.reference lookup = .ok outcome) :
    (s.records d (lookup.ask s.fields)).warnings = outcome.failures.map Failure.warning := by
  have happlied := (applied_ask_fields s lookup).trans h
  rw [records, happlied, List.cons_append, warnings_debug, warnings_append, warnings_debug,
    ← warnings_of_applied happlied]
  exact List.append_nil _

/-- What is reported of a rule is determined by the rule but for the fingerprint. -/
theorem skip?_of_mem_failures {outcome : Outcome} (h : s.reference lookup = .ok outcome)
    {failure : Failure} (hmem : failure ∈ outcome.failures) :
    ∃ rule, s.rules[failure.index]? = some rule ∧
      rule.skip? failure.index = some failure.withoutHash := by
  obtain ⟨i, rule, value, e, hrule, -, he, rfl⟩ := (mem_failures_iff h).mp hmem
  exact ⟨rule, hrule, Rule.skip?_of_substitute he i⟩

end Runs

/-- **Applying discloses nothing but what redaction reveals.** Where values may not be disclosed, two
lookups that redaction cannot tell apart, with texts of the same size, leave the same records and come to
the same but for the text and the fingerprints. And whatever may be disclosed, what is reported and what
the log warns of is determined by the rules: a failure, but for the fingerprint, by the rule at its place,
and a warning by a rule, in the order of the failures if there is an outcome. -/
theorem apply_redacted (s : RuleSet) :
    (∀ lookup lookup' : Finder Id,
      (∀ rule ∈ s.rules, rule.Indistinct (lookup rule.field) (lookup' rule.field)) →
      (∀ outcome outcome' : Outcome, Attempt.Yields (s.apply .redacted lookup) (.ok outcome) →
        Attempt.Yields (s.apply .redacted lookup') (.ok outcome') →
        Utf8.size outcome.text = Utf8.size outcome'.text) →
      ∃ (entries : Log) (result result' : Except Error Outcome),
        Attempt.Logs (s.apply .redacted lookup) result entries ∧
        Attempt.Logs (s.apply .redacted lookup') result' entries ∧
        result.map Outcome.skips = result'.map Outcome.skips) ∧
    ∀ (d : Disclosure) (lookup : Finder Id), ∃ (entries : Log) (result : Except Error Outcome),
      Attempt.Logs (s.apply d lookup) result entries ∧
      (∀ outcome, result = .ok outcome →
        entries.warnings = outcome.failures.map Failure.warning ∧
        ∀ failure ∈ outcome.failures, ∃ rule, s.rules[failure.index]? = some rule ∧
          rule.skip? failure.index = some failure.withoutHash) ∧
      ∀ entry ∈ entries, entry.level = .warn →
        ∃ (i : Nat) (rule : Rule), s.rules[i]? = some rule ∧ (entry = rule.absence ∨
          ∃ failure, rule.skip? i = some failure ∧ entry = failure.warning) := by
  refine ⟨fun lookup lookup' h hsize => ?_, fun d lookup => ?_⟩
  · obtain ⟨hrecords, hskips⟩ := records_congr h fun outcome outcome' hv hw =>
      hsize outcome outcome' (hv ▸ s.apply_yields .redacted lookup) (hw ▸ s.apply_yields .redacted lookup')
    refine ⟨_, _, _, s.apply_logs .redacted lookup, ?_, hskips⟩
    rw [hrecords]
    exact s.apply_logs .redacted lookup'
  · refine ⟨_, _, s.apply_logs d lookup, fun outcome h => ?_, fun entry => warning_of_mem_records⟩
    exact ⟨warnings_of_reference h, fun failure => skip?_of_mem_failures h⟩

/-- Two such lookups: the card numbers have the same length, and the rule for the PIN is skipped for both
of them. -/
theorem apply_redacted_card :
    let lookup (card pin : String) : Finder Id := fun field =>
      some (if field.text = "card" then card else pin)
    ∃ s : RuleSet, s.rules.map Rule.source = [⟨⟨"card"⟩, "[0-9]+", "$0"⟩, ⟨⟨"pin"⟩, "", "$"⟩] ∧
      ∃ (entries : Log) (result result' : Except Error Outcome),
        Attempt.Logs (s.apply .redacted (lookup "4111111111111234" "07")) result entries ∧
        Attempt.Logs (s.apply .redacted (lookup "5500000000000004" "2580")) result' entries ∧
        result.map Outcome.skips = result'.map Outcome.skips := by
  intro lookup
  have hok : ∀ source ∈ ([⟨⟨"card"⟩, "[0-9]+", "$0"⟩, ⟨⟨"pin"⟩, "", "$"⟩] : List RuleSource),
      source.Compiles := RuleSource.forall_compiles_of_all (fun source => source) (by decide +kernel)
  obtain ⟨s, hholds, -⟩ := ofSources_of_ok hok
  have hsources := hholds.sources_eq
  rw [RuleSource.settle_of_nodup (by decide)] at hsources
  refine ⟨s, hsources, ?_⟩
  have hmap := hsources
  simp only [List.map_eq_cons_iff, List.map_eq_nil_iff] at hmap
  obtain ⟨card, _, hrules, hcard, pin, _, rfl, hpin, rfl⟩ := hmap
  obtain ⟨hcardField, hcardPattern, hcardTemplate⟩ := RuleSource.mk.inj hcard
  obtain ⟨hpinField, hpinPattern, hpinTemplate⟩ := RuleSource.mk.inj hpin
  have happlied : ∀ v, card.substitute v = .ok v := by
    intro v
    rw [Rule.substitute, hcardTemplate, replaceAll_dollar_zero]
  have hskipped : ∀ v, pin.substitute v = .error (.invalidReference .missingIndex) := by
    intro v
    have hcompiled := pin.compiled
    rw [hpinPattern] at hcompiled
    rw [Rule.substitute, hpinTemplate]
    exact replaceAll_of_validate_error (Template.validate_dollar _)
      (Pattern.matches_of_compile_empty hcompiled v)
  have hcardValue : ∀ v w, lookup v w card.field = some v := fun v w => by simp [lookup, hcardField]
  have hpinValue : ∀ v w, lookup v w pin.field = some w := fun v w => by simp [lookup, hpinField]
  have htext : ∀ v w outcome, Attempt.Yields (s.apply .redacted (lookup v w)) (.ok outcome) →
      outcome.text = v := by
    intro v w outcome hyields
    have hreference := (s.apply_yields .redacted (lookup v w)).unique hyields
    simp [reference, fields, hrules, hcardValue, hpinValue, rendered?, happlied, hskipped,
      Except.toOption] at hreference
    rw [← hreference]
  have hsize : Utf8.size "4111111111111234" = Utf8.size "5500000000000004" := by decide +kernel
  refine (apply_redacted s).1 _ _ ?_ ?_
  · intro rule hmem
    rw [hrules] at hmem
    rcases List.mem_pair.mp hmem with rfl | rfl
    · rw [hcardValue, hcardValue]
      exact .applied (happlied _) (happlied _) (.inl hsize) (.inl hsize)
    · rw [hpinValue, hpinValue]
      exact .skipped (hskipped _) (hskipped _)
  · intro outcome outcome' h h'
    rw [htext _ _ _ h, htext _ _ _ h', hsize]

end RuleSet

end Fieldwise
