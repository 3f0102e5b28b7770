import Fieldwise.Proofs.Apply
import Fieldwise.Proofs.Origin

/-!
# Ways of building a rule set

A list of rules can be given to a builder one by one, and it can stand in a record or in a rule file. It
makes no difference which (`RuleSet.builds_agree`): all three build rule sets that nothing tells apart
(`RuleSet.Alike`), or all three fail with the first rule whose pattern does not compile.

Each way has been shown to register the rules in their order (`RuleSet.Holds`). What is registered
determines the rules of a rule set, since a rule is determined by how it is written, and the places in the
index, so that two rule sets that hold the same are alike (`RuleSet.Holds.alike`).
-/

namespace Fieldwise

/-! ### What tells rule sets apart -/

namespace RuleSet

variable {s t : RuleSet} {sources : List RuleSource}

/-- The rule sets have the same rules in the same order, and find the same rule for every field. -/
structure Alike (s t : RuleSet) : Prop where
  rules_eq : s.rules = t.rules
  find?_eq : ∀ field : FieldId, s.find? field = t.find? field

namespace Alike

/-- Rule sets that are alike read the same. -/
theorem describe_eq (h : s.Alike t) : s.describe = t.describe := by
  unfold describe
  rw [h.rules_eq]

/-- Rule sets that are alike do the same to any values: they ask a finder for the same, log the same and
come to the same. -/
theorem apply_eq (h : s.Alike t) {m : Type → Type} [Monad m] (d : Disclosure) (find : Finder m) :
    s.apply d find = t.apply d find := by
  rw [apply, apply, size, size, h.rules_eq]

/-- Rule sets that are alike have the same record. -/
theorem toRecord_eq (h : s.Alike t) : s.toRecord = t.toRecord := by
  rw [toRecord, toRecord, h.rules_eq]

end Alike

/-- In rule sets that are as they should be, the rules determine which rule is found for a field. -/
theorem WellFormed.alike (h : s.WellFormed) (h' : t.WellFormed) (hrules : s.rules = t.rules) :
    s.Alike t := by
  refine ⟨hrules, fun field => Option.ext fun rule => ?_⟩
  rw [h.find?_iff, h'.find?_iff, fields, fields, hrules]

/-- How the rules are written determines them. -/
theorem rules_eq_of_map_source_eq (h : s.rules.map Rule.source = t.rules.map Rule.source) :
    s.rules = t.rules :=
  List.map_injective_iff.mpr (fun _ _ => Rule.eq_of_source_eq) h

/-- What has been registered determines the rule set. -/
theorem Holds.alike (h : s.Holds sources) (h' : t.Holds sources) : s.Alike t := by
  have hrules : s.rules = t.rules :=
    rules_eq_of_map_source_eq (h.sources_eq.trans h'.sources_eq.symm)
  refine ⟨hrules, fun field => Option.ext fun rule => ?_⟩
  rw [h.find?_iff, h'.find?_iff, fields, fields, hrules]

end RuleSet

/-! ### Records of rules -/

namespace Record

variable {r : Record} {n : Nat} {first : RuleSource} {rest : List RuleSource}

/-- The rules of a record are read back from it. -/
theorem sources_ofSources (sources : List RuleSource) : (ofSources sources).sources = sources := by
  rw [Record.sources, ofSources, List.zip_map', List.zip_map', List.map_map]
  exact List.map_id' sources

/-- The record of one rule or more has the shape of a rule set. -/
theorem shape_ofSources (first : RuleSource) (rest : List RuleSource) :
    (ofSources (first :: rest)).shape = .ok (rest.length + 1) := by
  simp [shape, ofSources]

/-- A record that has the shape of a rule set builds what its rules build. -/
theorem build_yields (hshape : r.shape = .ok n) (hsources : r.sources = first :: rest)
    {result : Except Error RuleSet} (h : (RuleSet.ofSources first rest).Yields result) :
    r.build.Yields result := by
  rw [build, hshape]
  refine (Attempt.Yields.ofExcept _).bind_ok ((Attempt.Yields.log _ _ _).bind_ok ?_)
  rw [hsources]
  exact h

theorem build_ofSources_yields {result : Except Error RuleSet}
    (h : (RuleSet.ofSources first rest).Yields result) :
    (ofSources (first :: rest)).build.Yields result :=
  build_yields (shape_ofSources first rest) (sources_ofSources _) h

end Record

/-! ### All of them -/

/-- **The ways of building agree.** Rules that are given to a builder one by one, that stand in a rule
file, with whatever descriptions, or that stand in a record build rule sets that are alike, and that hold
what is left of the rules, if the patterns of all of them compile. If not, all three fail, and with the
same: the first rule in the list whose pattern does not compile, even if a later one would have taken its
place, and what is wrong with the pattern. A rule file adds where that was. -/
theorem RuleSet.builds_agree (first : RuleSpec) (rest : List RuleSpec) :
    ((∀ spec ∈ first :: rest, spec.Compiles) ∧
      ∃ s t u : RuleSet,
        (RuleSet.ofSources first.toRuleSource (rest.map RuleSpec.toRuleSource)).Yields (.ok s) ∧
        (RuleFile.mk (first :: rest)).build.Yields (.ok t) ∧
        (Record.ofSources ((first :: rest).map RuleSpec.toRuleSource)).build.Yields (.ok u) ∧
        s.Alike t ∧ s.Alike u ∧
        s.rules.map Rule.source =
          RuleSource.settle ((first :: rest).map RuleSpec.toRuleSource)) ∨
    ∃ (pre : List RuleSpec) (spec : RuleSpec) (post : List RuleSpec) (cause : PatternError),
      first :: rest = pre ++ spec :: post ∧ (∀ earlier ∈ pre, earlier.Compiles) ∧
      Pattern.compile spec.pattern = .error cause ∧
      (RuleSet.ofSources first.toRuleSource (rest.map RuleSpec.toRuleSource)).Yields
        (.error (.invalidPattern spec.field cause)) ∧
      (RuleFile.mk (first :: rest)).build.Yields
        (.error ((Report.ofError (.invalidPattern spec.field cause)).within
          (RuleFile.ruleContext spec.field))) ∧
      (Record.ofSources ((first :: rest).map RuleSpec.toRuleSource)).build.Yields
        (.error (.invalidPattern spec.field cause)) := by
  rcases RuleSource.forall_compiles_or RuleSpec.toRuleSource (first :: rest) with
    hok | ⟨pre, spec, post, e, hsplit, hok, he⟩
  · left
    have hsources : ∀ source ∈ first.toRuleSource :: rest.map RuleSpec.toRuleSource, source.Compiles :=
      List.forall_mem_map.mpr hok
    obtain ⟨s, hs, hsyields⟩ := ofSources_of_ok hsources
    obtain ⟨t, ht, htyields⟩ := RuleFile.build_of_ok (f := ⟨first :: rest⟩) (List.cons_ne_nil _ _) hok
    refine ⟨hok, s, t, s, hsyields, htyields, Record.build_ofSources_yields hsyields, ?_, ?_, ?_⟩
    · exact hs.alike ht
    · exact hs.alike hs
    · exact hs.sources_eq
  · right
    obtain ⟨cause, hcause, rfl⟩ := RuleSource.compile?_eq_error_iff.mp he
    have hsources : first.toRuleSource :: rest.map RuleSpec.toRuleSource =
        pre.map RuleSpec.toRuleSource ++ spec.toRuleSource :: post.map RuleSpec.toRuleSource := by
      rw [← List.map_cons, hsplit, List.map_append, List.map_cons]
    have hbuilder := ofSources_of_error hsources (List.forall_mem_map.mpr hok) he
    refine ⟨pre, spec, post, cause, hsplit, hok, hcause, hbuilder, ?_, ?_⟩
    · exact RuleFile.build_of_error hsplit hok he
    · exact Record.build_ofSources_yields hbuilder

end Fieldwise
