import Fieldwise.Proofs.Construction

/-!
# Rebuilding rule sets

A rule set can be flattened to a record or a rule file and built again. For every rule set that can be had
(`RuleSet.Obtainable`) nothing is lost on the way (`RuleSet.rebuild_identity`): both come back as rule sets
that can stand for it (`RuleSet.Interchangeable`). This rests on two facts. No field has two rules, so that
registering the rules again replaces none of them, and a rule keeps the text that its pattern was compiled
from.

The other way round, a record that is built and flattened again comes back in its normal form: with one
rule for each field, at the place where the field first comes up, and with the pattern and template that
come up last. `Record.build_cases` says what building a record can come to.
-/

namespace Fieldwise

/-! ### Rule sets -/

namespace RuleSet

variable {s t : RuleSet}

/-- A rule set that can be had: a builder gives it away, in whatever run, or it is built of a record, of
one in whatever written form, or of a rule file. -/
inductive Obtainable : RuleSet → Prop
  | given {first : RuleSource} {b₀ b : Builder} {requests : List Builder.Request}
      {answers : List Builder.Answer} {s : RuleSet} (hstart : (Builder.start first).Yields (.ok b₀))
      (hrun : (b₀.run requests).Yields (answers, b)) (hs : .ok (some s) ∈ answers) : Obtainable s
  | ofRecord {r : Record} {s : RuleSet} (h : r.build.Yields (.ok s)) : Obtainable s
  | ofJson {text : String} {s : RuleSet} (h : (RuleSet.ofJson text).Yields (.ok s)) : Obtainable s
  | ofYaml {text : String} {s : RuleSet} (h : (RuleSet.ofYaml text).Yields (.ok s)) : Obtainable s
  | ofBytes {bytes : List UInt8} {s : RuleSet} (h : (RuleSet.ofBytes bytes).Yields (.ok s)) :
      Obtainable s
  | decoded {format : RecordFormat} {bytes : List UInt8} {s : RuleSet}
      (h : (RuleSet.decode format bytes).Yields (.ok s)) : Obtainable s
  | ofFile {f : RuleFile} {s : RuleSet} (h : f.build.Yields (.ok s)) : Obtainable s

/-- A rule set that can be had is as it should be. -/
theorem Obtainable.wellFormed (h : s.Obtainable) : s.WellFormed := by
  cases h with
  | given hstart hrun hs => exact Builder.wellFormed_of_mem_answers hstart hrun hs
  | ofRecord h => exact ((Record.build_ensures _).of_yields h).wellFormed
  | ofJson h =>
    obtain ⟨r, -, hr⟩ := (Record.build_of_ensures _).of_yields h
    exact hr.wellFormed
  | ofYaml h =>
    obtain ⟨r, -, hr⟩ := (Record.build_of_ensures _).of_yields h
    exact hr.wellFormed
  | ofBytes h =>
    obtain ⟨r, -, hr⟩ := (Record.build_of_ensures _).of_yields h
    exact hr.wellFormed
  | decoded h =>
    obtain ⟨r, -, hr⟩ := (RuleSet.decode_ensures _ _).of_yields h
    exact hr.wellFormed
  | ofFile h => exact ((RuleFile.build_ensures _).of_yields h).wellFormed

/-- One rule set can stand for the other: they have the same rules and find the same ones, read the same,
and do the same to whatever values a finder gives. -/
structure Interchangeable (s t : RuleSet) : Prop extends s.Alike t where
  describe_eq : s.describe = t.describe
  apply_eq : ∀ (m : Type → Type) [Monad m] (d : Disclosure) (find : Finder m),
    s.apply d find = t.apply d find

theorem Alike.interchangeable (h : s.Alike t) : s.Interchangeable t where
  toAlike := h
  describe_eq := h.describe_eq
  apply_eq := fun _ _ d find => h.apply_eq d find

/-- Registering the rules of a rule set once more, in their order, makes a rule set that is alike. -/
theorem WellFormed.alike_of_holds (h : s.WellFormed) (ht : t.Holds (s.rules.map Rule.source)) :
    t.Alike s := by
  have hne : s.rules.map Rule.source ≠ [] := by
    intro hnil
    exact h.nonempty (List.map_eq_nil_iff.mp hnil)
  have hnodup : ((s.rules.map Rule.source).map RuleSource.field).Nodup := by
    rw [map_field_map_source]
    exact h.nodup_fields
  apply (ht.wellFormed hne).alike h
  apply rules_eq_of_map_source_eq
  rw [ht.sources_eq, RuleSource.settle_of_nodup hnodup]

/-- The rules of a rule set all compile, since they have. -/
theorem compiles_of_mem_map_source {source : RuleSource} (h : source ∈ s.rules.map Rule.source) :
    source.Compiles := by
  obtain ⟨rule, -, rfl⟩ := List.mem_map.mp h
  exact ⟨rule, RuleSource.compile?_source rule⟩

/-- The record of a rule set builds a rule set that is alike. -/
theorem WellFormed.toRecord_build (h : s.WellFormed) :
    ∃ t : RuleSet, s.toRecord.build.Yields (.ok t) ∧ t.Alike s := by
  obtain ⟨first, rest, hrules⟩ := List.exists_cons_of_ne_nil h.nonempty
  have hsources : s.rules.map Rule.source = first.source :: rest.map Rule.source := by
    rw [hrules, List.map_cons]
  have hok : ∀ source ∈ first.source :: rest.map Rule.source, source.Compiles := by
    rw [← hsources]
    exact fun source => compiles_of_mem_map_source
  obtain ⟨t, ht, hyields⟩ := ofSources_of_ok hok
  refine ⟨t, ?_, h.alike_of_holds (hsources ▸ ht)⟩
  rw [toRecord, hsources]
  exact Record.build_ofSources_yields hyields

/-- The rules that the rule file of a rule set lists are those of the rule set. -/
theorem map_toRuleSource_ofRuleSet (s : RuleSet) :
    (RuleFile.ofRuleSet s).rules.map RuleSpec.toRuleSource = s.rules.map Rule.source := by
  rw [RuleFile.ofRuleSet, List.map_map]
  rfl

/-- The rule file of a rule set builds a rule set that is alike. -/
theorem WellFormed.ofRuleSet_build (h : s.WellFormed) :
    ∃ t : RuleSet, (RuleFile.ofRuleSet s).build.Yields (.ok t) ∧ t.Alike s := by
  have hne : (RuleFile.ofRuleSet s).rules ≠ [] := by
    intro hnil
    exact h.nonempty (List.map_eq_nil_iff.mp hnil)
  have hok : ∀ spec ∈ (RuleFile.ofRuleSet s).rules, spec.Compiles := by
    intro spec hspec
    apply compiles_of_mem_map_source (s := s)
    rw [← map_toRuleSource_ofRuleSet]
    exact List.mem_map_of_mem hspec
  obtain ⟨t, ht, hyields⟩ := RuleFile.build_of_ok hne hok
  rw [map_toRuleSource_ofRuleSet] at ht
  exact ⟨t, hyields, h.alike_of_holds ht⟩

end RuleSet

/-! ### Records -/

namespace Record

variable {r : Record} {s : RuleSet}

/-- The lists of the record have the same length, and there is a rule. -/
structure Aligned (r : Record) : Prop where
  length_patterns : r.patterns.length = r.fieldIds.length
  length_templates : r.templates.length = r.fieldIds.length
  fieldIds_ne_nil : r.fieldIds ≠ []

theorem Aligned.shape_eq (h : r.Aligned) : r.shape = .ok r.fieldIds.length := by
  have hpos : r.fieldIds.length ≠ 0 := by
    intro hzero
    exact h.fieldIds_ne_nil (List.length_eq_zero_iff.mp hzero)
  simp [shape, h.length_patterns, h.length_templates, hpos]

/-- A record that is not aligned is malformed, and its lengths alone tell why. -/
theorem shape_of_not_aligned (h : ¬r.Aligned) : ∃ why, r.shape = .error (.malformedRuleSet why) := by
  unfold shape
  dsimp only
  split
  · exact ⟨_, rfl⟩
  · rename_i hlengths
    split
    · exact ⟨_, rfl⟩
    · rename_i hpos
      obtain ⟨hpatterns, htemplates⟩ := not_or.mp hlengths
      refine absurd ⟨not_not.mp hpatterns, not_not.mp htemplates, ?_⟩ h
      rintro hnil
      exact hpos (List.length_eq_zero_iff.mpr hnil)

/-- The fields of a record's rules are the record's, if no list is shorter. -/
theorem Aligned.ofSources_sources (h : r.Aligned) : ofSources r.sources = r := by
  obtain ⟨fieldIds, patterns, templates⟩ := r
  obtain ⟨hpatterns, htemplates, -⟩ := h
  simp only at hpatterns htemplates
  have hpairs : (patterns.zip templates).length = fieldIds.length := by
    rw [List.length_zip, hpatterns, htemplates, Nat.min_self]
  simp only [ofSources, Record.sources, List.map_map, Record.mk.injEq]
  refine ⟨?_, ?_, ?_⟩
  · exact List.map_fst_zip (Nat.le_of_eq hpairs.symm)
  · calc (fieldIds.zip (patterns.zip templates)).map (fun p => p.2.1)
        = ((fieldIds.zip (patterns.zip templates)).map Prod.snd).map Prod.fst := by
          rw [List.map_map]
          rfl
      _ = patterns := by
          rw [List.map_snd_zip (Nat.le_of_eq hpairs), List.map_fst_zip]
          omega
  · calc (fieldIds.zip (patterns.zip templates)).map (fun p => p.2.2)
        = ((fieldIds.zip (patterns.zip templates)).map Prod.snd).map Prod.snd := by
          rw [List.map_map]
          rfl
      _ = templates := by
          rw [List.map_snd_zip (Nat.le_of_eq hpairs), List.map_snd_zip]
          omega

/-- An aligned record has a rule. -/
theorem Aligned.exists_cons (h : r.Aligned) :
    ∃ (first : RuleSource) (rest : List RuleSource), r.sources = first :: rest := by
  apply List.exists_cons_of_ne_nil
  intro hnil
  apply h.fieldIds_ne_nil
  rw [← h.ofSources_sources, hnil]
  rfl

/-- What is wrong with the shape of a record is found before anything else is done. -/
theorem run_build_of_shape_error {e : Error} (h : r.shape = .error e) (before : Log) :
    StateT.run (ExceptT.run r.build) before = (.error e, before) := by
  rw [build, h]
  rfl

/-- What building a record can come to: it fails because of its lists, before a rule is looked at; or all
its rules compile, and what is left of them is the rule set; or it fails with the first rule that does not
compile. -/
theorem build_cases (r : Record) :
    (¬r.Aligned ∧ ∃ why, ∀ before : Log,
      StateT.run (ExceptT.run r.build) before = (.error (.malformedRuleSet why), before)) ∨
    (r.Aligned ∧ ∃ s : RuleSet, s.Holds r.sources ∧ r.build.Yields (.ok s)) ∨
    r.Aligned ∧ ∃ field cause, r.build.Yields (.error (.invalidPattern field cause)) := by
  by_cases h : r.Aligned
  · right
    obtain ⟨first, rest, hsources⟩ := h.exists_cons
    rcases RuleSource.forall_compiles_or (fun source => source) (first :: rest) with
      hok | ⟨pre, source, post, e, hsplit, hok, he⟩
    · left
      obtain ⟨s, hs, hyields⟩ := RuleSet.ofSources_of_ok hok
      exact ⟨h, s, hsources ▸ hs, build_yields h.shape_eq hsources hyields⟩
    · right
      obtain ⟨cause, -, rfl⟩ := RuleSource.compile?_eq_error_iff.mp he
      have hyields := RuleSet.ofSources_of_error hsplit hok he
      exact ⟨h, source.field, cause, build_yields h.shape_eq hsources hyields⟩
  · left
    obtain ⟨why, hwhy⟩ := shape_of_not_aligned h
    exact ⟨h, why, run_build_of_shape_error hwhy⟩

/-- The record in its normal form: one rule for each field, at the place where the field first comes up,
with the pattern and the template that come up last. -/
def normalForm (r : Record) : Record := ofSources (RuleSource.settle r.sources)

example : normalForm ⟨["a", "b", "a"], ["1", "2", "3"], ["x", "y", "z"]⟩ =
    ⟨["a", "b"], ["3", "2"], ["z", "y"]⟩ := by decide

theorem fieldId_text_injective : Function.Injective FieldId.text := fun _ _ h => congrArg FieldId.mk h

/-- The fields of an aligned record's rules are different exactly if the record's field ids are. -/
theorem Aligned.nodup_fields_iff (h : r.Aligned) :
    (r.sources.map RuleSource.field).Nodup ↔ r.fieldIds.Nodup := by
  have htexts : (r.sources.map RuleSource.field).map FieldId.text = r.fieldIds := by
    rw [List.map_map]
    exact congrArg Record.fieldIds h.ofSources_sources
  rw [← htexts, List.nodup_map_iff fieldId_text_injective]

/-- What a rule set has registered gives its record. -/
theorem toRecord_of_holds {sources : List RuleSource} (h : s.Holds sources) :
    s.toRecord = ofSources (RuleSource.settle sources) := by
  rw [RuleSet.toRecord, h.sources_eq]

/-- A record of which a rule set comes holds its rules. -/
theorem holds_of_build (h : r.build.Yields (.ok s)) : r.Aligned ∧ s.Holds r.sources := by
  rcases r.build_cases with ⟨-, why, hrun⟩ | ⟨haligned, t, ht, hyields⟩ | ⟨-, field, cause, hyields⟩
  · cases h.unique (Attempt.Yields.of_run hrun)
  · cases h.unique hyields
    exact ⟨haligned, ht⟩
  · cases h.unique hyields

/-- What building a record and flattening it again comes to. -/
structure Rebuilds (r : Record) : Prop where
  /-- A record is malformed exactly if its lists differ in length or are empty. -/
  malformed_iff : (∃ why, r.build.Yields (.error (.malformedRuleSet why))) ↔
    ¬(r.patterns.length = r.fieldIds.length ∧ r.templates.length = r.fieldIds.length ∧
      r.fieldIds.length ≠ 0)
  /-- That a record is malformed is found before any pattern is compiled: nothing has been logged. -/
  malformed_at_once : ∀ why, r.build.Yields (.error (.malformedRuleSet why)) → ∀ before : Log,
    StateT.run (ExceptT.run r.build) before = (.error (.malformedRuleSet why), before)
  /-- Whatever is built flattens to the normal form. -/
  toRecord_eq : ∀ s : RuleSet, r.build.Yields (.ok s) → s.toRecord = r.normalForm
  /-- The record itself comes back exactly if no field id is repeated. -/
  toRecord_eq_iff : ∀ s : RuleSet, r.build.Yields (.ok s) → (s.toRecord = r ↔ r.fieldIds.Nodup)

theorem aligned_iff : r.Aligned ↔ r.patterns.length = r.fieldIds.length ∧
    r.templates.length = r.fieldIds.length ∧ r.fieldIds.length ≠ 0 := by
  rw [ne_eq, List.length_eq_zero_iff]
  exact ⟨fun ⟨hpatterns, htemplates, hne⟩ => ⟨hpatterns, htemplates, hne⟩,
    fun ⟨hpatterns, htemplates, hne⟩ => ⟨hpatterns, htemplates, hne⟩⟩

/-- A malformed record is not aligned, and fails at once. -/
theorem run_build_of_malformed {why : Malformation} (h : r.build.Yields (.error (.malformedRuleSet why))) :
    ¬r.Aligned ∧ ∀ before : Log,
      StateT.run (ExceptT.run r.build) before = (.error (.malformedRuleSet why), before) := by
  rcases r.build_cases with ⟨hnot, why', hrun⟩ | ⟨-, t, -, hyields⟩ | ⟨-, field, cause, hyields⟩
  · cases h.unique (Attempt.Yields.of_run hrun)
    exact ⟨hnot, hrun⟩
  · cases h.unique hyields
  · cases h.unique hyields

theorem rebuilds (r : Record) : r.Rebuilds where
  malformed_iff := by
    rw [← aligned_iff]
    constructor
    · rintro ⟨why, hwhy⟩
      exact (run_build_of_malformed hwhy).1
    · intro hnot
      obtain ⟨why, hwhy⟩ := shape_of_not_aligned hnot
      exact ⟨why, Attempt.Yields.of_run (run_build_of_shape_error hwhy)⟩
  malformed_at_once := fun _ h => (run_build_of_malformed h).2
  toRecord_eq := fun _ h => toRecord_of_holds (holds_of_build h).2
  toRecord_eq_iff := by
    intro s h
    obtain ⟨haligned, hholds⟩ := holds_of_build h
    constructor
    · intro heq
      have hids : s.fields.map FieldId.text = r.fieldIds := by
        rw [← heq, RuleSet.toRecord, ofSources, RuleSet.fields, List.map_map, List.map_map]
        rfl
      rw [← hids, List.nodup_map_iff fieldId_text_injective]
      exact hholds.nodup_fields
    · intro hnodup
      rw [toRecord_of_holds hholds,
        RuleSource.settle_of_nodup (haligned.nodup_fields_iff.mpr hnodup), haligned.ofSources_sources]

end Record

/-! ### There and back -/

namespace RuleSet

/-- **Rebuilding is the identity.** Whatever rule set can be had, its record and its rule file both build,
and what they build can stand for it. And whatever record is built, it is found to be malformed, at once,
exactly if its lists differ in length or are empty, and otherwise comes back in its normal form, which is
the record itself exactly if no field id is repeated. -/
theorem rebuild_identity :
    (∀ s : RuleSet, s.Obtainable →
      (∃ t : RuleSet, s.toRecord.build.Yields (.ok t) ∧ t.Interchangeable s) ∧
      ∃ t : RuleSet, (RuleFile.ofRuleSet s).build.Yields (.ok t) ∧ t.Interchangeable s) ∧
    ∀ r : Record, r.Rebuilds := by
  refine ⟨fun s hs => ⟨?_, ?_⟩, Record.rebuilds⟩
  · obtain ⟨t, hyields, ht⟩ := hs.wellFormed.toRecord_build
    exact ⟨t, hyields, ht.interchangeable⟩
  · obtain ⟨t, hyields, ht⟩ := hs.wellFormed.ofRuleSet_build
    exact ⟨t, hyields, ht.interchangeable⟩

/-- One such rule set: it comes of a record that repeats a field, so that the record comes back in its
normal form and no other. -/
theorem rebuild_identity_repeated :
    ∃ s : RuleSet, (Record.mk ["a", "b", "a"] ["x", "y", "(z)"] ["1", "2", "$1"]).build.Yields (.ok s) ∧
      s.toRecord = ⟨["a", "b"], ["(z)", "y"], ["$1", "2"]⟩ ∧
      (∃ t : RuleSet, s.toRecord.build.Yields (.ok t) ∧ t.Interchangeable s) ∧
      ∃ t : RuleSet, (RuleFile.ofRuleSet s).build.Yields (.ok t) ∧ t.Interchangeable s := by
  have hsources : (Record.mk ["a", "b", "a"] ["x", "y", "(z)"] ["1", "2", "$1"]).sources =
      [⟨⟨"a"⟩, "x", "1"⟩, ⟨⟨"b"⟩, "y", "2"⟩, ⟨⟨"a"⟩, "(z)", "$1"⟩] := rfl
  have hok : ∀ source ∈ ([⟨⟨"a"⟩, "x", "1"⟩, ⟨⟨"b"⟩, "y", "2"⟩, ⟨⟨"a"⟩, "(z)", "$1"⟩] : List RuleSource),
      source.Compiles := RuleSource.forall_compiles_of_all (fun source => source) (by decide +kernel)
  obtain ⟨s, -, hyields⟩ := ofSources_of_ok hok
  have hbuild := Record.build_yields rfl hsources hyields
  obtain ⟨hsets, hrecords⟩ := rebuild_identity
  refine ⟨s, hbuild, ?_, hsets s (.ofRecord hbuild)⟩
  rw [(hrecords _).toRecord_eq s hbuild]
  decide

end RuleSet

end Fieldwise
