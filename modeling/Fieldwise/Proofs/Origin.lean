import Fieldwise.Proofs.Builder.Run
import Fieldwise.Record.Format
import Fieldwise.RuleFile

/-!
# Where rule sets come from

Apart from a builder, a rule set can come from a record, in any of its written forms, and from a rule
file. All of these go through a builder, and no record or rule file can bring about a rule set that a
builder could not (`RuleSet.ComesFrom`), whoever wrote it. What the three do to a list of rules is the
same: they fail with the first rule that does not compile, or else keep what is left of the rules.
-/

namespace Fieldwise

/-! ### Rule sets that come from rules -/

namespace RuleSet

variable {s : RuleSet} {sources : List RuleSource}

/-- The rule set is as it should be, and is what is left of some rules, all of which compile. -/
structure ComesFrom (s : RuleSet) (sources : List RuleSource) : Prop where
  wellFormed : s.WellFormed
  sources_eq : s.rules.map Rule.source = RuleSource.settle sources
  source_mem : ∀ rule ∈ s.rules, rule.source ∈ sources
  compile?_source : ∀ rule ∈ s.rules, rule.source.compile? = .ok rule
  compiles : ∀ source ∈ sources, source.Compiles

/-- A rule set holds what is left of the rules that have been registered. -/
theorem Holds.comesFrom (h : s.Holds sources) (hne : sources ≠ []) (hok : ∀ t ∈ sources, t.Compiles) :
    s.ComesFrom sources where
  wellFormed := h.wellFormed hne
  sources_eq := h.sources_eq
  source_mem := fun rule hrule => by
    apply RuleSource.mem_of_mem_settle
    rw [← h.sources_eq]
    exact List.mem_map_of_mem hrule
  compile?_source := fun rule _ => RuleSource.compile?_source rule
  compiles := hok

/-- What a list of rules builds comes from these rules. -/
theorem ofSources_ensures (first : RuleSource) (rest : List RuleSource) :
    (ofSources first rest).Ensures fun s => s.ComesFrom (first :: rest) := by
  rcases RuleSource.forall_compiles_or (fun t => t) (first :: rest) with
    hok | ⟨pre, t, post, e, hsplit, hok, he⟩
  · obtain ⟨s, hholds, hs⟩ := ofSources_of_ok hok
    refine hs.ensures fun x hx => ?_
    cases hx
    exact hholds.comesFrom (List.cons_ne_nil _ _) hok
  · exact (ofSources_of_error hsplit hok he).ensures nofun

end RuleSet

/-! ### Records -/

namespace Record

/-- The pattern of a rule of a record is one of the record's patterns. -/
theorem pattern_mem_of_mem_sources {r : Record} {source : RuleSource} (h : source ∈ r.sources) :
    source.pattern ∈ r.patterns := by
  obtain ⟨⟨field, pattern, template⟩, hmem, rfl⟩ := List.mem_map.mp h
  exact (List.of_mem_zip (List.of_mem_zip hmem).2).1

/-- A rule set that comes from the rules of a record has no pattern but the record's. -/
structure Makes (r : Record) (s : RuleSet) : Prop extends s.ComesFrom r.sources where
  pattern_mem : ∀ rule ∈ s.rules, rule.pattern.source ∈ r.patterns

/-- What a record builds is made of its rules. -/
theorem build_ensures (r : Record) : r.build.Ensures r.Makes := by
  refine (Attempt.Ensures.ofExcept (P := fun _ => True) fun _ _ => trivial).bind fun n _ => ?_
  refine (Attempt.Ensures.log _ _ _).bind fun _ _ => ?_
  cases hsources : r.sources with
  | nil => exact (Attempt.Yields.throw _).ensures nofun
  | cons first rest =>
    refine (RuleSet.ofSources_ensures first rest).imp fun s hs => ?_
    rw [← hsources] at hs
    exact ⟨hs, fun rule hrule => pattern_mem_of_mem_sources (hs.source_mem rule hrule)⟩

/-- So is what is built of a record that has been read. -/
theorem build_of_ensures (record : Except Error Record) :
    (do (← Attempt.ofExcept record).build : Attempt Error RuleSet).Ensures fun s =>
      ∃ r, record = .ok r ∧ r.Makes s :=
  (Attempt.Ensures.ofExcept fun _ hr => hr).bind fun r hr =>
    (build_ensures r).imp fun _ hs => ⟨r, hr, hs⟩

end Record

/-- The rule set that is read from bytes is made of the rules of the record that they hold. -/
theorem RuleSet.decode_ensures (format : RecordFormat) (bytes : List UInt8) :
    (RuleSet.decode format bytes).Ensures fun s =>
      ∃ r, Record.decode format bytes = .ok r ∧ r.Makes s :=
  (Attempt.Ensures.ofExcept fun _ hr => hr).bind fun r hr =>
    ((Record.build_ensures r).mapError _).imp fun _ hs => ⟨r, hr, hs⟩

/-! ### Rule files -/

namespace RuleFile

variable {spec : RuleSpec} {f : RuleFile}

/-- The step of a rule file adds a rule, and names it in its error. -/
theorem adds_within : Builder.Adds RuleSpec.toRuleSource
    (fun r e => (Report.ofError e).within (ruleContext r.field))
    fun b r => within r.field (b.add r.toRuleSource) :=
  ⟨fun h hrule => (Builder.add_of_ok h hrule).mapError _,
    fun h he => (Builder.add_of_error h he).mapError _⟩

theorem addRules_eq_foldlM (b : Builder) (specs : List RuleSpec) :
    addRules b specs = specs.foldlM (fun b r => within r.field (b.add r.toRuleSource)) b := by
  induction specs generalizing b with
  | nil => rfl
  | cons r rest ih =>
    rw [addRules, List.foldlM_cons]
    exact bind_congr fun b => ih b

/-- Building adds all rules to an empty builder. -/
theorem build_eq_foldlM (hne : f.rules ≠ []) :
    f.build = do
      let b ← f.rules.foldlM (fun b r => within r.field (b.add r.toRuleSource)) Builder.empty
      let (rules, _) ← b.build.mapError Report.ofError
      log .debug LogTarget.config ("Built engine from config: " ++ rules.describe)
      return rules := by
  unfold build
  split
  · contradiction
  · rename_i first rest hrules
    rw [hrules]
    simp only [addRules_eq_foldlM, List.foldlM_cons, bind_assoc]
    rfl

theorem build_of_nil (h : f.rules = []) : f.build.Yields (.error (.ofCause .noRules)) := by
  rw [build, h]
  exact Attempt.Yields.throw _

/-- Rules that all compile build a rule set that holds what is left of them. -/
theorem build_of_ok (hne : f.rules ≠ []) (hok : ∀ r ∈ f.rules, r.Compiles) :
    ∃ s : RuleSet, s.Holds (f.rules.map RuleSpec.toRuleSource) ∧ f.build.Yields (.ok s) := by
  obtain ⟨b, hopened, hholds, hadd⟩ :=
    adds_within.foldlM_of_ok (b := Builder.empty) rfl RuleSet.holds_empty hok
  refine ⟨b.toRuleSet, hholds, ?_⟩
  rw [build_eq_foldlM hne]
  exact hadd.bind_ok (((Builder.freeze_of_opened hopened).after.mapError _).bind_ok
    ((Attempt.Yields.log _ _ _).bind_ok (Attempt.Yields.pure _)))

/-- The first rule that does not compile is the reason why nothing is built. -/
theorem build_of_error {pre post : List RuleSpec} (hsplit : f.rules = pre ++ spec :: post)
    (hok : ∀ r ∈ pre, r.Compiles) {e : Error} (he : spec.compile? = .error e) :
    f.build.Yields (.error ((Report.ofError e).within (ruleContext spec.field))) := by
  rw [build_eq_foldlM (by rw [hsplit]; simp), hsplit]
  exact (adds_within.foldlM_of_error rfl hok he).bind_error

/-- What a rule file builds comes from its rules. -/
theorem build_ensures (f : RuleFile) :
    f.build.Ensures fun s => s.ComesFrom (f.rules.map RuleSpec.toRuleSource) := by
  by_cases hne : f.rules = []
  · exact (build_of_nil hne).ensures nofun
  rcases RuleSource.forall_compiles_or RuleSpec.toRuleSource f.rules with
    hok | ⟨pre, r, post, e, hsplit, hok, he⟩
  · obtain ⟨s, hholds, hs⟩ := build_of_ok hne hok
    refine hs.ensures fun x hx => ?_
    cases hx
    exact hholds.comesFrom (by simpa using hne) (List.forall_mem_map.mpr hok)
  · exact (build_of_error hsplit hok he).ensures nofun

/-- The text of a file is that of its bytes. -/
theorem readText_eq_ok_iff {read : FileReader} {path text : String} :
    read.readText path = .ok text ↔ ∃ bytes, read path = .ok bytes ∧ Utf8.decodeString bytes = .ok text := by
  rw [FileReader.readText]
  cases read path with
  | error e => simp [bind, Except.bind]
  | ok bytes => cases hbytes : Utf8.decodeString bytes <;> simp [bind, Except.bind, Except.mapError, hbytes]

/-- What the path of a rule file leads to: its content, or what is wrong with the file or its text. -/
def contentAt (read : FileReader) (path : String) : Except Report RuleFile :=
  match read.readText path with
  | .error e =>
    .error ((Report.ofCause (.file e)).within ("Failed to read config file " ++ path))
  | .ok text => (ofYaml text).mapError fun r => r.within ("Failed to parse config file " ++ path)

theorem load_yields (read : FileReader) (path : String) :
    (load read path).Yields (contentAt read path) := by
  refine (Attempt.Yields.log _ _ _).bind_ok ?_
  rw [contentAt]
  cases read.readText path with
  | error e => exact (Attempt.Yields.ofExcept _).bind_error
  | ok text =>
    refine (Attempt.Yields.ofExcept _).bind_ok ?_
    dsimp only
    cases ofYaml text with
    | error r => exact (Attempt.Yields.ofExcept _).bind_error
    | ok f =>
      exact (Attempt.Yields.ofExcept _).bind_ok
        ((Attempt.Yields.log _ _ _).bind_ok (Attempt.Yields.pure f))

theorem contentAt_eq_ok_iff {read : FileReader} {path : String} :
    contentAt read path = .ok f ↔
      ∃ bytes text, read path = .ok bytes ∧ Utf8.decodeString bytes = .ok text ∧ ofYaml text = .ok f := by
  have hmap : ∀ text, (ofYaml text).mapError
      (fun r => r.within ("Failed to parse config file " ++ path)) = .ok f ↔ ofYaml text = .ok f := by
    intro text
    cases ofYaml text <;> simp [Except.mapError]
  rw [contentAt]
  constructor
  · intro h
    cases htext : read.readText path with
    | error e => rw [htext] at h; cases h
    | ok text =>
      rw [htext] at h
      obtain ⟨bytes, hread, hdecode⟩ := readText_eq_ok_iff.mp htext
      exact ⟨bytes, text, hread, hdecode, (hmap text).mp h⟩
  · rintro ⟨bytes, text, hread, hdecode, hyaml⟩
    rw [readText_eq_ok_iff.mpr ⟨bytes, hread, hdecode⟩]
    exact (hmap text).mpr hyaml

/-- A rule file is loaded exactly if its bytes are a text that holds it. -/
theorem load_yields_ok_iff {read : FileReader} {path : String} :
    (load read path).Yields (.ok f) ↔
      ∃ bytes text, read path = .ok bytes ∧ Utf8.decodeString bytes = .ok text ∧ ofYaml text = .ok f := by
  rw [← contentAt_eq_ok_iff]
  constructor
  · intro h
    exact (load_yields read path).unique h
  · intro h
    rw [← h]
    exact load_yields read path

end RuleFile

/-! ### All of them -/

/-- Nothing that is read or built brings about a rule set that is not as it should be: not bytes in any
format, not a record or a text or bytes of one, not a rule file, and not a builder. -/
theorem rule_sets_wellFormed :
    (∀ (format : RecordFormat) (bytes : List UInt8), (RuleSet.decode format bytes).Ensures fun s =>
      ∃ r, Record.decode format bytes = .ok r ∧ r.Makes s) ∧
    (∀ r : Record, r.build.Ensures r.Makes) ∧
    (∀ text : String, (RuleSet.ofJson text).Ensures fun s =>
      ∃ r, Record.ofJson text = .ok r ∧ r.Makes s) ∧
    (∀ text : String, (RuleSet.ofYaml text).Ensures fun s =>
      ∃ r, Record.ofYaml text = .ok r ∧ r.Makes s) ∧
    (∀ bytes : List UInt8, (RuleSet.ofBytes bytes).Ensures fun s =>
      ∃ r, Record.ofBytes bytes = .ok r ∧ r.Makes s) ∧
    (∀ f : RuleFile, f.build.Ensures fun s =>
      s.ComesFrom (f.rules.map RuleSpec.toRuleSource)) ∧
    ∀ (first : RuleSource) (b₀ b : Builder) (requests : List Builder.Request)
      (answers : List Builder.Answer) (s : RuleSet), (Builder.start first).Yields (.ok b₀) →
      (b₀.run requests).Yields (answers, b) → .ok (some s) ∈ answers → s.WellFormed :=
  ⟨RuleSet.decode_ensures, Record.build_ensures, fun _ => Record.build_of_ensures _,
    fun _ => Record.build_of_ensures _, fun _ => Record.build_of_ensures _, RuleFile.build_ensures,
    fun _ _ _ _ _ _ hstart hrun hs => Builder.wellFormed_of_mem_answers hstart hrun hs⟩

end Fieldwise
