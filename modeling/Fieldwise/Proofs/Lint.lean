import Fieldwise.Proofs.Apply
import Fieldwise.Proofs.Origin
import Fieldwise.Proofs.Template.Validation
import Mathlib.Data.List.Basic

/-!
# What checking a rule file foretells

Checking a rule file goes through its rules one by one (`RuleFile.warnings_eq_flatMap`) and warns of a
template exactly if the rule's pattern compiles and the template is at fault (`badTemplate_mem_warningsAt_iff`). It
never sees a value, and still it foretells what applying the rule set will report: what is left for a field
is the last rule for it (`IsLatest`), and that rule is skipped just where its pattern matches and checking
has warned of its template (`RuleFile.lint_foretells`).
-/

namespace Fieldwise

/-! ### The latest rule for a field -/

/-- The last member of a list that passes a test is followed by none that does. -/
theorem getLast?_filter_eq_some_iff {α : Type} {l : List α} {p : α → Bool} {x : α} :
    (l.filter p).getLast? = some x ↔
      p x = true ∧ ∃ pre post, l = pre ++ x :: post ∧ ∀ y ∈ post, p y = false := by
  rw [← List.head?_reverse, ← List.filter_reverse, List.head?_filter, List.find?_eq_some_iff_append]
  refine and_congr_right fun _ => ⟨?_, ?_⟩
  · rintro ⟨as, bs, hsplit, has⟩
    refine ⟨bs.reverse, as.reverse, ?_, fun y hy => by simpa using has y (List.mem_reverse.mp hy)⟩
    simpa using congrArg List.reverse hsplit
  · rintro ⟨pre, post, rfl, hpost⟩
    refine ⟨post.reverse, pre.reverse, by simp, fun y hy => ?_⟩
    rw [hpost y (List.mem_reverse.mp hy)]
    rfl

namespace RuleSource

theorem latest?_eq_some_iff {sources : List RuleSource} {field : FieldId} {s : RuleSource} :
    latest? sources field = some s ↔
      s.field = field ∧ ∃ pre post, sources = pre ++ s :: post ∧ ∀ t ∈ post, t.field ≠ field := by
  rw [latest?, getLast?_filter_eq_some_iff]
  simp

/-- A rule is left exactly if it is the latest for its field. -/
theorem mem_settle_iff {sources : List RuleSource} {s : RuleSource} :
    s ∈ settle sources ↔ latest? sources s.field = some s := by
  rw [settle, List.mem_filterMap]
  constructor
  · rintro ⟨field, -, hs⟩
    rw [(mem_of_latest? hs).2]
    exact hs
  · intro h
    exact ⟨s.field, List.mem_eraseDups.mpr (List.mem_map_of_mem (mem_of_latest? h).1), h⟩

end RuleSource

namespace RuleFile

/-- The rule at a place is the last one for its field. -/
structure IsLatest (f : RuleFile) (i : Nat) (spec : RuleSpec) : Prop where
  getElem?_eq : f.rules[i]? = some spec
  field_ne : ∀ (j : Nat) (spec' : RuleSpec), i < j → f.rules[j]? = some spec' → spec'.field ≠ spec.field

variable {f : RuleFile} {i : Nat} {spec : RuleSpec} {s : RuleSet}

/-- What stands behind the last rule for a field is for other fields. -/
theorem isLatest_iff_append :
    f.IsLatest i spec ↔
      ∃ pre post, f.rules = pre ++ spec :: post ∧ pre.length = i ∧ ∀ r ∈ post, r.field ≠ spec.field := by
  constructor
  · intro ⟨hi, hne⟩
    obtain ⟨hlt, rfl⟩ := List.getElem?_eq_some_iff.mp hi
    refine ⟨f.rules.take i, f.rules.drop (i + 1), ?_, List.length_take_of_le (Nat.le_of_lt hlt), ?_⟩
    · rw [← List.drop_eq_getElem_cons hlt, List.take_append_drop]
    · intro r hr
      obtain ⟨k, hk⟩ := List.mem_iff_getElem?.mp hr
      rw [List.getElem?_drop] at hk
      exact hne _ r (by omega) hk
  · rintro ⟨pre, post, hsplit, rfl, hpost⟩
    constructor
    · rw [hsplit, List.getElem?_append_right (Nat.le_refl _), Nat.sub_self, List.getElem?_cons_zero]
    · intro j spec' hj hspec'
      obtain ⟨k, rfl⟩ := Nat.exists_eq_add_of_lt hj
      rw [hsplit, List.getElem?_append_right (by omega), Nat.add_assoc, Nat.add_sub_cancel_left,
        List.getElem?_cons_succ] at hspec'
      exact hpost spec' (List.mem_of_getElem? hspec')

/-- The last rule for a field is the one that is left for it. -/
theorem latest?_eq_some_iff_isLatest {field : FieldId} {source : RuleSource} :
    RuleSource.latest? (f.rules.map RuleSpec.toRuleSource) field = some source ↔
      ∃ i spec, f.IsLatest i spec ∧ spec.field = field ∧ spec.toRuleSource = source := by
  rw [RuleSource.latest?_eq_some_iff]
  constructor
  · rintro ⟨rfl, sources, sources', hsplit, hne⟩
    obtain ⟨pre, rest, hrules, -, hrest⟩ := List.map_eq_append_iff.mp hsplit
    obtain ⟨spec, post, rfl, rfl, rfl⟩ := List.map_eq_cons_iff.mp hrest
    refine ⟨_, spec, isLatest_iff_append.mpr ⟨pre, post, hrules, rfl, fun r hr => ?_⟩, rfl, rfl⟩
    exact hne r.toRuleSource (List.mem_map_of_mem hr)
  · rintro ⟨i, spec, hlatest, rfl, rfl⟩
    obtain ⟨pre, post, hrules, -, hne⟩ := isLatest_iff_append.mp hlatest
    exact ⟨rfl, pre.map RuleSpec.toRuleSource, post.map RuleSpec.toRuleSource, by simp [hrules],
      List.forall_mem_map.mpr hne⟩

/-- What is built holds what is left of the rules. -/
theorem holds_of_build (h : f.build.Yields (.ok s)) : s.Holds (f.rules.map RuleSpec.toRuleSource) := by
  by_cases hne : f.rules = []
  · cases h.unique (build_of_nil hne)
  rcases RuleSource.forall_compiles_or RuleSpec.toRuleSource f.rules with
    hok | ⟨pre, r, post, e, hsplit, hok, he⟩
  · obtain ⟨s', hholds, hs'⟩ := build_of_ok hne hok
    rwa [Except.ok.inj (h.unique hs')]
  · cases h.unique (build_of_error hsplit hok he)

/-- The rules of what is built are the last ones for their fields. -/
theorem mem_rules_iff (h : f.build.Yields (.ok s)) {rule : Rule} :
    rule ∈ s.rules ↔ ∃ i spec, f.IsLatest i spec ∧ rule.source = spec.toRuleSource := by
  calc rule ∈ s.rules
      ↔ rule.source ∈ s.rules.map Rule.source :=
        ⟨List.mem_map_of_mem, fun hmem => by
          obtain ⟨rule', hrule', heq⟩ := List.mem_map.mp hmem
          rwa [← Rule.eq_of_source_eq heq]⟩
    _ ↔ RuleSource.latest? (f.rules.map RuleSpec.toRuleSource) rule.field = some rule.source := by
        rw [(holds_of_build h).sources_eq]
        exact RuleSource.mem_settle_iff
    _ ↔ ∃ i spec, f.IsLatest i spec ∧ rule.source = spec.toRuleSource := by
        rw [latest?_eq_some_iff_isLatest]
        refine exists_congr fun i => exists_congr fun spec => and_congr_right fun _ => ?_
        exact ⟨fun ⟨_, heq⟩ => heq.symm, fun heq => ⟨congrArg RuleSource.field heq.symm, heq.symm⟩⟩

/-! ### Warnings, rule by rule -/

/-- The warnings about the rule at a place. -/
def warningsAt (f : RuleFile) (i : Nat) : List Warning :=
  match f.rules[i]? with
  | none => []
  | some spec => ruleWarnings ((f.rules.take i).map (·.field)).reverse spec

theorem warningsFrom_eq_flatMap (seen : List FieldId) (specs : List RuleSpec) :
    warningsFrom seen specs =
      (List.range specs.length).flatMap fun i =>
        match specs[i]? with
        | none => []
        | some spec => ruleWarnings (((specs.take i).map (·.field)).reverse ++ seen) spec := by
  induction specs generalizing seen with
  | nil => rfl
  | cons spec rest ih =>
    rw [warningsFrom, ih, List.length_cons, List.range_succ_eq_map, List.flatMap_cons, List.flatMap_map]
    simp

/-- Checking a rule file goes through its rules, one after another. -/
theorem warnings_eq_flatMap (f : RuleFile) :
    f.warnings = (List.range f.rules.length).flatMap f.warningsAt := by
  rw [warnings, warningsFrom_eq_flatMap]
  simp only [List.append_nil]
  rfl

theorem mem_warnings_of_mem_warningsAt {w : Warning} (h : w ∈ f.warningsAt i) : w ∈ f.warnings := by
  rw [warnings_eq_flatMap, List.mem_flatMap]
  refine ⟨i, List.mem_range.mpr ?_, h⟩
  by_contra hge
  rw [warningsAt, List.getElem?_eq_none (Nat.le_of_not_lt hge)] at h
  exact absurd h List.not_mem_nil

theorem lint_yields (f : RuleFile) : f.lint.Yields (f.warnings.map Warning.message) :=
  (Logging.Yields.log _ _ _).bind (Logging.Yields.pure _)

/-- The rule compiles, and its template is at fault for its pattern. -/
def TemplateFault (spec : RuleSpec) (e : Template.Error) : Prop :=
  ∃ rule, spec.compile.Yields (.ok rule) ∧ Template.validate rule.pattern.groups spec.template = .error e

/-- A rule that compiles to a rule is that rule's source. -/
theorem compile_yields_ok_iff {source : RuleSource} {rule : Rule} :
    source.compile.Yields (.ok rule) ↔ rule.source = source := by
  rw [← RuleSource.compile?_eq_ok_iff]
  exact ⟨fun h => source.compile_yields.unique h, fun h => h ▸ source.compile_yields⟩

/-- There is a warning about a template exactly if it is at fault. -/
theorem templateWarning?_eq_some_iff {w : Warning} :
    templateWarning? spec = some w ↔
      ∃ e, TemplateFault spec e ∧ w = .badTemplate spec.field spec.template e := by
  unfold TemplateFault templateWarning?
  simp only [compile_yields_ok_iff, Pattern.compileWithin_defaultSizeLimit]
  constructor
  · intro h
    split at h
    · cases h
    · rename_i p hp
      split at h
      · cases h
      · rename_i e he
        have hsource : p.source = spec.pattern := Pattern.source_of_compile hp
        refine ⟨e, ⟨⟨spec.field, p, spec.template, hsource ▸ hp⟩, ?_, he⟩, (Option.some.inj h).symm⟩
        show RuleSource.mk spec.field p.source spec.template = spec.toRuleSource
        rw [hsource]
  · rintro ⟨e, ⟨rule, hrule, he⟩, rfl⟩
    have hcompile : Pattern.compile spec.pattern = .ok rule.pattern := by
      rw [← hrule]
      exact rule.compiled
    simp only [hcompile, he]

/-- The warnings about a rule's template are those among the warnings about the rule. -/
theorem badTemplate_mem_warningsAt_iff (h : f.rules[i]? = some spec) {field : FieldId} {template : String}
    {e : Template.Error} :
    .badTemplate field template e ∈ f.warningsAt i ↔
      field = spec.field ∧ template = spec.template ∧ TemplateFault spec e := by
  have hmem : Warning.badTemplate field template e ∈ f.warningsAt i ↔
      templateWarning? spec = some (.badTemplate field template e) := by
    rw [warningsAt, h, ← Option.mem_toList]
    simp only [ruleWarnings, List.mem_append]
    constructor
    · rintro ((hmem | hmem) | hmem)
      · split at hmem <;> simp at hmem
      · split at hmem <;> simp at hmem
      · exact hmem
    · exact .inr
  rw [hmem, templateWarning?_eq_some_iff]
  constructor
  · rintro ⟨e', hfault, hw⟩
    obtain ⟨rfl, rfl, rfl⟩ := Warning.badTemplate.inj hw
    exact ⟨rfl, rfl, hfault⟩
  · rintro ⟨rfl, rfl, hfault⟩
    exact ⟨e, hfault, rfl⟩

/-! ### What the warnings foretell -/

/-- What the warnings about a rule file tell of the rule set that it builds: every rule that is skipped has
been warned of, in words that hold its template and its error (`of_failure`), so that without warnings of templates no rule is (`of_clean`), and a rule
that has been warned of is skipped exactly where its pattern matches (`of_warning`). -/
structure Foretells (f : RuleFile) (s : RuleSet) : Prop where
  of_failure : ∀ (d : Disclosure) (lookup : Finder Id) (outcome : Outcome),
    Attempt.Yields (s.apply d lookup) (.ok outcome) → ∀ failure ∈ outcome.failures,
      ∃ i spec e, f.IsLatest i spec ∧ spec.field = failure.field ∧
        .badTemplate failure.field failure.template e ∈ f.warningsAt i ∧ e.message = failure.message ∧
        "Field '" ++ failure.field.text ++ "': template '" ++ failure.template ++ "' cannot be expanded (" ++
          failure.message ++ "); the field will be skipped whenever its pattern matches." ∈ f.lint.run'.1
  of_clean : (∀ field template e, Warning.badTemplate field template e ∉ f.warnings) →
    ∀ (d : Disclosure) (lookup : Finder Id),
      (∃ text, Attempt.Yields (s.apply d lookup) (.ok ⟨text, []⟩)) ∨
        ∃ field, Attempt.Yields (s.apply d lookup) (.error (.fieldNotFound field))
  of_warning : ∀ (i : Nat) (spec : RuleSpec) (template : String) (e : Template.Error),
    f.IsLatest i spec → .badTemplate spec.field template e ∈ f.warningsAt i →
      ∃ rule, s.find? spec.field = some rule ∧ rule.source = spec.toRuleSource ∧
        ∀ (d : Disclosure) (lookup : Finder Id), (∀ field ∈ s.fields, (lookup field).isSome) →
          ∃ outcome value, Attempt.Yields (s.apply d lookup) (.ok outcome) ∧
            lookup spec.field = some value ∧
            ((∃ failure ∈ outcome.failures, failure.field = spec.field) ↔ rule.pattern.Matches value)

variable {f : RuleFile} {i : Nat} {spec : RuleSpec} {s : RuleSet} {rule : Rule} {e : Template.Error}

/-- The rule that is left for a field has a template at fault exactly if its source has. -/
theorem templateFault_iff (h : rule.source = spec.toRuleSource) :
    TemplateFault spec e ↔ Template.validate rule.pattern.groups rule.template = .error e := by
  have htemplate : rule.template = spec.template := congrArg RuleSource.template h
  rw [TemplateFault, htemplate]
  constructor
  · rintro ⟨rule', hrule', he⟩
    rwa [Rule.eq_of_source_eq (h.trans (compile_yields_ok_iff.mp hrule').symm)]
  · exact fun he => ⟨rule, compile_yields_ok_iff.mpr h, he⟩

/-- Every rule that is skipped has been warned of. -/
theorem badTemplate_mem_of_failure (h : f.build.Yields (.ok s)) {lookup : Finder Id} {outcome : Outcome}
    (houtcome : s.reference lookup = .ok outcome) {failure : Failure} (hmem : failure ∈ outcome.failures) :
    ∃ i spec e, f.IsLatest i spec ∧ spec.field = failure.field ∧
      .badTemplate failure.field failure.template e ∈ f.warningsAt i ∧ e.message = failure.message := by
  obtain ⟨k, rule, value, e, hrule, -, he, rfl⟩ := (RuleSet.mem_failures_iff houtcome).mp hmem
  obtain ⟨i, spec, hlatest, hsource⟩ := (mem_rules_iff h).mp (List.mem_of_getElem? hrule)
  have hfield : rule.field = spec.field := congrArg RuleSource.field hsource
  have htemplate : rule.template = spec.template := congrArg RuleSource.template hsource
  have hfault : TemplateFault spec e := (templateFault_iff hsource).mpr (replaceAll_eq_error_iff.mp he).2
  exact ⟨i, spec, e, hlatest, hfield.symm,
    (badTemplate_mem_warningsAt_iff hlatest.getElem?_eq).mpr ⟨hfield, htemplate, hfault⟩, rfl⟩

/-- A rule with a template at fault is skipped exactly where its pattern matches. -/
theorem exists_failure_iff_matches (hs : s.fields.Nodup) {lookup : Finder Id} {outcome : Outcome}
    (houtcome : s.reference lookup = .ok outcome) (hmem : rule ∈ s.rules)
    (hfault : Template.validate rule.pattern.groups rule.template = .error e) {value : String}
    (hvalue : lookup rule.field = some value) :
    (∃ failure ∈ outcome.failures, failure.field = rule.field) ↔ rule.pattern.Matches value := by
  constructor
  · rintro ⟨failure, hfailure, hfield⟩
    obtain ⟨i, rule', value', e', hrule', hvalue', he', rfl⟩ := (RuleSet.mem_failures_iff houtcome).mp hfailure
    -- a rule set has one rule for a field, so that what is reported is about this one
    have heq : rule' = rule :=
      List.inj_on_of_nodup_map hs (List.mem_of_getElem? hrule') hmem hfield
    subst heq
    rw [Option.some.inj (hvalue.symm.trans hvalue')]
    exact (replaceAll_eq_error_iff.mp he').1
  · intro hmatches
    obtain ⟨i, hi⟩ := List.mem_iff_getElem?.mp hmem
    exact ⟨Failure.ofRule i rule e value, (RuleSet.mem_failures_iff houtcome).mpr
      ⟨i, rule, value, e, hi, hvalue, replaceAll_eq_error_iff.mpr ⟨hmatches, hfault⟩, rfl⟩, rfl⟩

theorem foretells_of_build (h : f.build.Yields (.ok s)) : f.Foretells s where
  of_failure := by
    intro d lookup outcome houtcome failure hmem
    obtain ⟨i, spec, e, hlatest, hfield, hwarning, hmessage⟩ :=
      badTemplate_mem_of_failure h ((s.apply_yields d lookup).unique houtcome) hmem
    refine ⟨i, spec, e, hlatest, hfield, hwarning, hmessage, ?_⟩
    rw [← hmessage, (lint_yields f).run']
    exact List.mem_map_of_mem (mem_warnings_of_mem_warningsAt hwarning)
  of_clean := by
    intro hclean d lookup
    have hyields := s.apply_yields d lookup
    rcases s.reference_eq_ok_or_fieldNotFound lookup with ⟨⟨text, failures⟩, hok⟩ | ⟨field, herror⟩
    · have hnil : failures = [] := by
        refine List.eq_nil_iff_forall_not_mem.mpr fun failure hmem => ?_
        obtain ⟨i, spec, e, -, -, hwarning, -⟩ := badTemplate_mem_of_failure h hok hmem
        exact hclean _ _ _ (mem_warnings_of_mem_warningsAt hwarning)
      exact .inl ⟨text, by rwa [hok, hnil] at hyields⟩
    · exact .inr ⟨field, by rwa [herror] at hyields⟩
  of_warning := by
    intro i spec template e hlatest hwarning
    obtain ⟨-, -, hfault⟩ := (badTemplate_mem_warningsAt_iff hlatest.getElem?_eq).mp hwarning
    -- what is warned of compiles, and the last rule for its field is the one that is left
    obtain ⟨rule, hrule, -⟩ := id hfault
    have hsource : rule.source = spec.toRuleSource := compile_yields_ok_iff.mp hrule
    have hfield : rule.field = spec.field := congrArg RuleSource.field hsource
    have hmem : rule ∈ s.rules := (mem_rules_iff h).mpr ⟨i, spec, hlatest, hsource⟩
    have hholds := holds_of_build h
    refine ⟨rule, ?_, hsource, fun d lookup hall => ?_⟩
    · obtain ⟨k, hk⟩ := List.mem_iff_getElem?.mp hmem
      exact (hholds.find?_iff _ _).mpr ⟨k, hk, RuleSet.getElem?_fields_eq_some_iff.mpr ⟨rule, hk, hfield⟩⟩
    · obtain ⟨outcome, houtcome⟩ := RuleSet.exists_reference_eq_ok hall
      obtain ⟨value, hvalue⟩ := Option.isSome_iff_exists.mp (hall rule.field (List.mem_map_of_mem hmem))
      refine ⟨outcome, value, houtcome ▸ s.apply_yields d lookup, hfield ▸ hvalue, ?_⟩
      rw [← hfield]
      exact exists_failure_iff_matches hholds.nodup_fields houtcome hmem
        ((templateFault_iff hsource).mp hfault) hvalue

/-- **Checking foretells applying.** Checking a rule file says in words what is warned of, rule by rule, and
warns of a template exactly if the rule's pattern compiles and its template is at fault for this pattern,
whether or not the rule file can be built. It compiles patterns under a limit of its own, under which just
those compile that compile as rules. If the rule file can be built, the warnings of templates foretell which rules will
be skipped. -/
theorem lint_foretells (f : RuleFile) :
    f.lint.Yields (f.warnings.map Warning.message) ∧
    f.warnings = (List.range f.rules.length).flatMap f.warningsAt ∧
    (∀ (i : Nat) (spec : RuleSpec), f.rules[i]? = some spec →
      ∀ (field : FieldId) (template : String) (e : Template.Error),
        .badTemplate field template e ∈ f.warningsAt i ↔
          field = spec.field ∧ template = spec.template ∧
          ∃ rule, spec.compile.Yields (.ok rule) ∧
            Template.validate rule.pattern.groups spec.template = .error e) ∧
    (∀ source, Pattern.compileWithin Pattern.defaultSizeLimit source = Pattern.compile source) ∧
    ∀ s : RuleSet, f.build.Yields (.ok s) → f.Foretells s :=
  ⟨lint_yields f, warnings_eq_flatMap f, fun _ _ h _ _ _ => badTemplate_mem_warningsAt_iff h,
    Pattern.compileWithin_defaultSizeLimit, fun _ => foretells_of_build⟩

end RuleFile

end Fieldwise
