import Fieldwise.Proofs.Cli.Codec
import Fieldwise.Proofs.Cli.Failure
import Fieldwise.Proofs.Template.Replacement

/-!
# Applying from the command line

`RuleFile.apply` builds the rule set of a rule file and applies it to values. The command that does this
from the command line does not call it: it goes through the steps by itself, and collects the values between
building and applying. All the same it comes to what `RuleFile.apply` comes to (`run_apply`): it prints the
text, or the document that also tells of the rules that were skipped, or it fails with the same report. Since
building comes first, a rule file that does not build is reported whatever the values are.
-/

namespace Fieldwise

/-! ### Applying a rule file -/

namespace RuleFile

variable {f : RuleFile} {s : RuleSet} {d : Disclosure} {values : Values} {r : Report}

/-- What can be wrong with a rule file that is applied to values: it has no rules, a pattern of one of them
is none, or one of their fields has no value. -/
inductive Fault (f : RuleFile) (values : Values) : Report → Prop
  | noRules (h : f.rules = []) : Fault f values ⟨[], .noRules⟩
  | invalidPattern {spec : RuleSpec} {cause : PatternError} (hmem : spec ∈ f.rules)
    (h : Pattern.compile spec.pattern = .error cause) :
    Fault f values ⟨["Invalid rule for field '" ++ spec.field.text ++ "'"],
      .rules (.invalidPattern spec.field cause)⟩
  | fieldNotFound {spec : RuleSpec} (hmem : spec ∈ f.rules) (h : values.finder spec.field = none) :
    Fault f values ⟨["Failed to apply field substitutions"], .rules (.fieldNotFound spec.field)⟩

/-- A rule file builds a rule set that holds its rules, or it is at fault whatever the values are. -/
theorem build_yields_or (f : RuleFile) :
    (∃ s : RuleSet, s.Holds (f.rules.map RuleSpec.toRuleSource) ∧ f.build.Yields (.ok s)) ∨
      ∃ r, (∀ values, f.Fault values r) ∧ f.build.Yields (.error r) := by
  by_cases hne : f.rules = []
  · exact .inr ⟨_, fun _ => .noRules hne, build_of_nil hne⟩
  rcases RuleSource.forall_compiles_or RuleSpec.toRuleSource f.rules with
    hok | ⟨pre, spec, post, e, hsplit, hok, he⟩
  · exact .inl (build_of_ok hne hok)
  · obtain ⟨cause, hcause, rfl⟩ := RuleSource.compile?_eq_error_iff.mp he
    have hmem : spec ∈ f.rules := by simp [hsplit]
    exact .inr ⟨_, fun _ => .invalidPattern hmem hcause, build_of_error hsplit hok he⟩

/-- A rule file that does not build cannot be applied either. -/
theorem apply_of_build_error (h : f.build.Yields (.error r)) : (f.apply d values).Yields (.error r) :=
  h.bind_error

/-- What comes of applying a rule set, with what is being done named in the error. -/
def applied (s : RuleSet) (values : Values) : Except Report Outcome :=
  (s.reference values.finder).mapError fun e =>
    (Report.ofError e).within "Failed to apply field substitutions"

/-- A rule file comes to what the rule set that it builds comes to. -/
theorem apply_of_build_ok (h : f.build.Yields (.ok s)) :
    (f.apply d values).Yields (applied s values) :=
  h.bind_ok ((s.apply_yields d values.finder).mapError _)

/-- Applying a rule set fails for the field of a rule that has no value, and for nothing else. -/
theorem fault_of_applied (hs : s.Holds (f.rules.map RuleSpec.toRuleSource))
    (h : applied s values = .error r) : f.Fault values r := by
  rw [applied, RuleSet.reference] at h
  split at h
  · rename_i field hfield
    cases h
    have hisNone := List.find?_some hfield
    have hnone : values.finder field = none := Option.isNone_iff_eq_none.mp hisNone
    obtain ⟨source, hsource, rfl⟩ :=
      List.mem_map.mp (hs.mem_fields_iff.mp (List.mem_of_find?_eq_some hfield))
    obtain ⟨spec, hspec, rfl⟩ := List.mem_map.mp hsource
    exact .fieldNotFound hspec hnone
  · cases h

/-- Applying a rule file comes to an outcome, or the rule file is at fault. -/
theorem apply_yields_or (f : RuleFile) (d : Disclosure) (values : Values) :
    (∃ o, (f.apply d values).Yields (.ok o)) ∨
      ∃ r, f.Fault values r ∧ (f.apply d values).Yields (.error r) := by
  rcases f.build_yields_or with ⟨s, hs, hbuild⟩ | ⟨r, hfault, hbuild⟩
  · have happly : (f.apply d values).Yields (applied s values) := apply_of_build_ok hbuild
    cases hresult : applied s values with
    | ok o =>
      rw [hresult] at happly
      exact .inl ⟨o, happly⟩
    | error r =>
      rw [hresult] at happly
      exact .inr ⟨r, fault_of_applied hs hresult, happly⟩
  · exact .inr ⟨r, hfault values, apply_of_build_error hbuild⟩

/-- Without the report, applying a rule file comes to the text of the outcome or to the same error. -/
theorem applyText_yields {result : Except Report Outcome} (h : (f.apply d values).Yields result) :
    (f.applyText d values).Yields (result.map Outcome.text) := h.map Outcome.text

/-- A rule file with one rule that keeps what it finds builds a rule set that takes the value of the field for
the text. -/
theorem exists_build_of_keeping {field : FieldId} {pattern : String}
    (hok : ∀ spec ∈ ([⟨⟨field, pattern, "$0"⟩, none⟩] : List RuleSpec), spec.Compiles) :
    ∃ s : RuleSet, (RuleFile.mk [⟨⟨field, pattern, "$0"⟩, none⟩]).build.Yields (.ok s) ∧
      s.fields = [field] ∧
      ∀ (lookup : Finder Id) (value : String), lookup field = some value →
        s.reference lookup = .ok ⟨value, []⟩ := by
  obtain ⟨s, hs, hbuild⟩ := build_of_ok (f := ⟨[⟨⟨field, pattern, "$0"⟩, none⟩]⟩) (List.cons_ne_nil _ _) hok
  have hsources : s.rules.map Rule.source = [⟨field, pattern, "$0"⟩] :=
    hs.sources_eq.trans (RuleSource.settle_of_nodup (List.nodup_singleton field))
  obtain ⟨rule, hrules, hsource⟩ := List.map_eq_singleton_iff.mp hsources
  obtain ⟨rfl, -, htemplate⟩ := RuleSource.mk.inj hsource
  have hfields : s.fields = [rule.field] := by rw [RuleSet.fields, hrules, List.map_singleton]
  refine ⟨s, hbuild, hfields, fun lookup value hvalue => ?_⟩
  have hkeeps : rule.substitute value = .ok value := by
    rw [Rule.substitute, htemplate, replaceAll_dollar_zero]
  have hrendered := RuleSet.rendered?_eq hvalue
  rw [hkeeps] at hrendered
  have hnone : (RuleSet.fields s).find? (fun field => (lookup field).isNone) = none := by
    rw [hfields, List.find?_singleton, hvalue]
    rfl
  rw [RuleSet.reference, hnone, hrules, List.zipIdx_singleton, List.filterMap_cons_some hrendered,
    List.filterMap_cons, RuleSet.failure?_of_ok hvalue 0 hkeeps, List.filterMap_nil, List.filterMap_nil,
    String.join_cons, String.join_nil, String.append_empty]

end RuleFile

/-! ### The command -/

namespace Cli

variable {w : World} {rules : String} {path : Option String} {fields : List (String × String)}
  {report json : Bool} {f : RuleFile} {s : RuleSet} {values : Values} {r : Report} {o : Outcome}

/-- What comes of loading is what comes of building. -/
theorem loadedRules_eq (hload : (RuleFile.load w.read rules).Yields (.ok f))
    {built : Except Report RuleSet} (hbuild : f.build.Yields built) :
    loadedRules w rules = built.map fun s => (f, s) := by
  rw [loadedRules, hload.run']
  show (f.build.run'.1 >>= fun s => pure (f, s)) = _
  rw [hbuild.run']
  cases built <;> rfl

/-- The command applies a rule set like anyone else. -/
theorem appliedRules_eq (w : World) (s : RuleSet) (values : Values) :
    appliedRules w s values = RuleFile.applied s values :=
  ((s.apply_yields w.disclosure values.finder).mapError _).run'

/-- A rule file that does not build is what the command fails with. -/
theorem outcome_of_build_error (hload : (RuleFile.load w.read rules).Yields (.ok f))
    (hbuild : f.build.Yields (.error r)) :
    (Command.apply rules path fields report json).outcome w = .error r := by
  rw [Command.outcome, loadedRules_eq hload hbuild]
  rfl

/-- So is what applying the rule set to the values fails with. -/
theorem outcome_of_applied_error (hload : (RuleFile.load w.read rules).Yields (.ok f))
    (hbuild : f.build.Yields (.ok s)) (hvalues : Values.collect w.read path fields = .ok values)
    (happly : RuleFile.applied s values = .error r) :
    (Command.apply rules path fields report json).outcome w = .error r := by
  rw [Command.outcome, loadedRules_eq hload hbuild, hvalues]
  show (appliedRules w s values >>= fun _ => pure ()) = _
  rw [appliedRules_eq, happly]
  rfl

/-- Applying prints the outcome, and leaves nothing else behind. -/
theorem runApply_yields (hload : (RuleFile.load w.read rules).Yields (.ok f))
    (hbuild : f.build.Yields (.ok s)) (hvalues : Values.collect w.read path fields = .ok values)
    (happly : RuleFile.applied s values = .ok o) (report json : Bool) :
    (runApply w rules path fields report json).Yields (.ok ())
      [.printed (Utf8.encodeString (o.write json))] := by
  have hattempt : (Attempt.mapError
      (fun e => (Report.ofError e).within "Failed to apply field substitutions")
      (s.apply w.disclosure values.finder)).Yields (.ok o) :=
    happly ▸ (s.apply_yields w.disclosure values.finder).mapError _
  rw [runApply, hvalues]
  refine (Action.Yields.log _ _ _).bind ?_
  refine (loadRules_yields hload hbuild).bind ?_
  refine (Action.Yields.ofExcept (.ok values)).bind ?_
  refine (Action.Yields.log _ _ _).bind ?_
  refine (Action.Yields.attempt hattempt).bind ?_
  refine (Action.Yields.print (o.write json)).bind ?_
  split
  · exact (Action.Yields.forM_status _ _ _).bind (Action.Yields.log _ _ _)
  · exact Action.Yields.log _ _ _

variable {d : Disclosure}

/-- Where applying the rule file comes to an outcome the command prints it. -/
theorem succeeds_of_apply (hload : (RuleFile.load w.read rules).Yields (.ok f))
    (hvalues : Values.collect w.read path fields = .ok values)
    (happly : (f.apply d values).Yields (.ok o)) (report json quiet debug : Bool) :
    (Call.result w ⟨.apply rules path fields report json, quiet, debug⟩).Succeeds
      (Utf8.encodeString (o.write json)) [] := by
  rcases f.build_yields_or with ⟨s, -, hbuild⟩ | ⟨r, -, hbuild⟩
  · have happlied := (RuleFile.apply_of_build_ok hbuild).unique happly
    have hyields : (Call.run w ⟨.apply rules path fields report json, quiet, debug⟩).Yields (.ok ())
        [.printed (Utf8.encodeString (o.write json))] :=
      runApply_yields hload hbuild hvalues happlied report json
    have hsucceeds := Call.succeeds_of_yields hyields
    rwa [List.flatMap_singleton] at hsucceeds
  · cases (RuleFile.apply_of_build_error hbuild).unique happly

/-- Where applying the rule file fails the command fails with the same report. -/
theorem outcome_of_apply_error (hload : (RuleFile.load w.read rules).Yields (.ok f))
    (hvalues : Values.collect w.read path fields = .ok values)
    (happly : (f.apply d values).Yields (.error r)) :
    (Command.apply rules path fields report json).outcome w = .error r := by
  rcases f.build_yields_or with ⟨s, -, hbuild⟩ | ⟨r', -, hbuild⟩
  · exact outcome_of_applied_error hload hbuild hvalues
      ((RuleFile.apply_of_build_ok hbuild).unique happly)
  · obtain rfl := Except.error.inj ((RuleFile.apply_of_build_error hbuild).unique happly)
    exact outcome_of_build_error hload hbuild

/-- A call whose outcome is an error leaves notes and the report. -/
theorem Call.fails_of_outcome {c : Call} (h : c.command.outcome w = .error r) :
    ∃ notes : List Event, (∀ e ∈ notes, e.isNote) ∧ (c.result w).Fails (c.told w notes) r := by
  obtain ⟨notes, hadds, hnotes⟩ := c.run_ends w
  rw [h] at hadds
  have hall := hnotes r h
  exact ⟨notes, hall, Call.fails_of_adds hadds hall⟩

/-- **Applying from the command line.** Let the rule file load. If the values can be collected, the command
comes to what applying the rule file to them comes to, whatever is logged: it goes well and prints the text
and the end of a line, or with `--json` the document of the text and the rules that were skipped, or it fails
with the same report, which is about the rule file having no rules, a pattern of one of them, or a field
without a value. If the rule file does not build, the command fails with the report of that, whether or not
there are values. -/
theorem run_apply {arguments : List String} {quiet debug : Bool}
    (hparse : Call.parse arguments = .ok ⟨.apply rules path fields report json, quiet, debug⟩)
    (hload : (RuleFile.load w.read rules).Yields (.ok f)) (d : Disclosure) :
    let c : Call := ⟨.apply rules path fields report json, quiet, debug⟩
    (∀ values, Values.collect w.read path fields = .ok values →
      (∃ result, (f.apply d values).Yields result) ∧
      (∀ text, (f.applyText d values).Yields (.ok text) → (run w arguments).exitCode = 0 ∧
        (json = false → (run w arguments).Succeeds (Utf8.encodeString (text ++ "\n")) [])) ∧
      (∀ outcome, (f.apply d values).Yields (.ok outcome) → json = true →
        (run w arguments).Succeeds (Utf8.encodeString ((Json.object [("text", .string outcome.text),
          ("skipped", .array (outcome.failures.map Failure.toJson))]).pretty ++ "\n")) []) ∧
      ∀ r, (f.apply d values).Yields (.error r) → (f.applyText d values).Yields (.error r) ∧
        f.Fault values r ∧
        ∃ notes : List Event, (∀ e ∈ notes, e.isNote) ∧ (run w arguments).Fails (c.told w notes) r) ∧
    ∀ r, f.build.Yields (.error r) →
      ∃ notes : List Event, (∀ e ∈ notes, e.isNote) ∧ (run w arguments).Fails (c.told w notes) r := by
  intro c
  have hrun : run w arguments = c.result w := by rw [run, hparse]
  rw [hrun]
  refine ⟨fun values hvalues => ⟨?_, fun text htext => ?_, fun outcome happly hjson => ?_, fun r happly => ?_⟩,
    fun r hbuild => Call.fails_of_outcome (outcome_of_build_error hload hbuild)⟩
  · rcases f.apply_yields_or d values with ⟨o, happly⟩ | ⟨r, -, happly⟩
    · exact ⟨_, happly⟩
    · exact ⟨_, happly⟩
  · rcases f.apply_yields_or d values with ⟨o, happly⟩ | ⟨r, -, happly⟩
    · have hsucceeds := succeeds_of_apply hload hvalues happly report json quiet debug
      obtain rfl := Except.ok.inj ((RuleFile.applyText_yields happly).unique htext)
      refine ⟨hsucceeds.exitCode_eq, ?_⟩
      rintro rfl
      exact hsucceeds
    · cases (RuleFile.applyText_yields happly).unique htext
  · subst hjson
    exact succeeds_of_apply hload hvalues happly report true quiet debug
  · refine ⟨RuleFile.applyText_yields happly, ?_,
      Call.fails_of_outcome (outcome_of_apply_error hload hvalues happly)⟩
    rcases f.apply_yields_or d values with ⟨o, happly'⟩ | ⟨r', hfault, happly'⟩
    · cases happly.unique happly'
    · obtain rfl := Except.error.inj (happly.unique happly')
      exact hfault

/-- One rule that finds numbers and keeps them: a number is printed, and where there is no value for the field
that is reported. -/
theorem run_apply_number :
    let f : RuleFile := ⟨[⟨⟨⟨"n"⟩, "[0-9]+", "$0"⟩, none⟩]⟩
    let w := World.constant (Utf8.encodeString f.toYaml)
    (run w ["apply", "--rules", "rules.yaml", "--field", "n=42"]).Succeeds (Utf8.encodeString "42\n") [] ∧
      ∃ earlier, (run w ["apply", "--rules", "rules.yaml"]).Fails earlier
        ⟨["Failed to apply field substitutions"], .rules (.fieldNotFound ⟨"n"⟩)⟩ := by
  intro f w
  have hload : (RuleFile.load w.read "rules.yaml").Yields (.ok f) := f.isLoadedFrom_toYaml _ _ rfl
  have hok : ∀ spec ∈ f.rules, spec.Compiles :=
    RuleSource.forall_compiles_of_all RuleSpec.toRuleSource (by decide +kernel)
  obtain ⟨s, hbuild, hfields, hkeeps⟩ := RuleFile.exists_build_of_keeping hok
  constructor
  · have hcall : Call.parse ["apply", "--rules", "rules.yaml", "--field", "n=42"] =
        .ok ⟨.apply "rules.yaml" none [("n", "42")] false false, false, false⟩ := rfl
    have happlied : RuleFile.applied s [("n", "42")] = .ok ⟨"42", []⟩ := by
      rw [RuleFile.applied, hkeeps (Values.finder [("n", "42")]) "42" rfl]
      rfl
    have happly : (f.apply .redacted [("n", "42")]).Yields (.ok ⟨"42", []⟩) :=
      happlied ▸ RuleFile.apply_of_build_ok hbuild
    have hresult := (run_apply hcall hload .redacted).1 [("n", "42")] rfl
    exact (hresult.2.1 "42" (RuleFile.applyText_yields happly)).2 rfl
  · have hcall : Call.parse ["apply", "--rules", "rules.yaml"] =
        .ok ⟨.apply "rules.yaml" none [] false false, false, false⟩ := rfl
    have happlied : RuleFile.applied s [] =
        .error ⟨["Failed to apply field substitutions"], .rules (.fieldNotFound ⟨"n"⟩)⟩ := by
      rw [RuleFile.applied, RuleSet.reference, hfields]
      rfl
    have happly : (f.apply .redacted []).Yields
        (.error ⟨["Failed to apply field substitutions"], .rules (.fieldNotFound ⟨"n"⟩)⟩) :=
      happlied ▸ RuleFile.apply_of_build_ok hbuild
    have hresult := (run_apply hcall hload .redacted).1 [] rfl
    obtain ⟨-, -, notes, -, hfails⟩ := hresult.2.2.2 _ happly
    exact ⟨_, hfails⟩

end Cli

end Fieldwise
