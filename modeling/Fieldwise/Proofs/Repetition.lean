import Fieldwise.Proofs.Lint

/-!
# Which rules are replaced

A builder replaces a rule if its index knows the field of the next one, and checking a rule file warns of a
repeated field if the field is among those that it has seen. Neither looks at what the other does. They
agree rule by rule (`RuleFile.lint_marks_replacements`), because both come to a rule with the fields of the
rules before it: the index has a place for these fields and no others, since the builder holds what is left
of the rules before (`RuleFile.reaches_step`).

Counting follows from this with one more rule at the end of the file at a time: a rule either brings about a
warning or leaves one more rule in the rule set.
-/

namespace Fieldwise

/-! ### Records of what is done to a builder -/

namespace Attempt

variable {ε ε' α β : Type} {attempt : Attempt ε α} {result : Except ε α} {entries : Log}

theorem Logs.map (f : α → β) (h : attempt.Logs result entries) :
    (f <$> attempt).Logs (result.map f) entries := by
  intro before
  rw [ExceptT.run_map, StateT.run_map, h before]
  rfl

theorem Logs.mapError (f : ε → ε') (h : attempt.Logs result entries) :
    (attempt.mapError f).Logs (result.mapError f) entries := by
  intro before
  show StateT.run (Except.mapError f <$> ExceptT.run attempt) before = _
  rw [StateT.run_map, h before]
  rfl

end Attempt

namespace Building

variable {α β : Type} {action : Building α} {b b' b'' : Builder} {entries entries' : Log}

/-- From any log, the action comes to the result, leaves the builder as `b'` and adds these records. -/
def Logs (action : Building α) (b : Builder) (result : Except Error α) (b' : Builder)
    (entries : Log) : Prop :=
  ∀ before : Log,
    StateT.run (StateT.run (ExceptT.run action) b) before = ((result, b'), before ++ entries)

theorem Logs.pure (x : α) : Logs (Pure.pure x) b (.ok x) b [] := by
  intro before
  rw [List.append_nil]
  rfl

theorem Logs.get : Logs MonadState.get b (.ok b) b [] := by
  intro before
  rw [List.append_nil]
  rfl

theorem Logs.modify (f : Builder → Builder) : Logs (modify f) b (.ok ()) (f b) [] := by
  intro before
  rw [List.append_nil]
  rfl

theorem Logs.log (level : LogLevel) (target message : String) :
    Logs (Fieldwise.log level target message) b (.ok ()) b [⟨level, target, message⟩] := fun _ => rfl

theorem Logs.ofAttempt {attempt : Attempt Error α} {r : Except Error α} (h : attempt.Logs r entries) :
    Logs (ofAttempt attempt) b r b entries := by
  intro before
  show StateT.run (ExceptT.run attempt >>= fun result => Pure.pure (result, b)) before = _
  rw [StateT.run_bind, h before]
  rfl

theorem Logs.bind_ok {next : α → Building β} {x : α} {r : Except Error β}
    (h : Logs action b (.ok x) b' entries) (h' : Logs (next x) b' r b'' entries') :
    Logs (action >>= next) b r b'' (entries ++ entries') := by
  intro before
  show StateT.run (StateT.run (ExceptT.run action >>= ExceptT.bindCont next) b) before = _
  rw [StateT.run_bind, StateT.run_bind, h before]
  show StateT.run (StateT.run (ExceptT.run (next x)) b') (before ++ entries) = _
  rw [h' (before ++ entries), List.append_assoc]

theorem Logs.after {r : Except Error α} (h : Logs action b r b' entries) :
    Attempt.Logs (action.after b) (r.map fun x => (x, b')) entries := by
  intro before
  show StateT.run (StateT.run (ExceptT.run action) b >>= _) before = _
  rw [StateT.run_bind, h before]
  rfl

end Building

/-! ### Registering one rule -/

/-- The record of a rule that has been compiled. -/
def Rule.compileRecord (rule : Rule) : LogEntry :=
  ⟨.debug, LogTarget.compiler, "Rule for field '" ++ rule.field.text ++ "' compiled successfully (" ++
    toString rule.groupCount ++ " groups)."⟩

theorem Rule.compile_logs (rule : Rule) : rule.source.compile.Logs (.ok rule) [rule.compileRecord] := by
  intro before
  rw [RuleSource.compile, RuleSource.compile?_source]
  rfl

namespace Builder

variable {b b' : Builder} {rule : Rule} {position : Nat}

/-- The record of a rule that takes the place of an earlier one. -/
def replacementRecord (field : FieldId) (position : Nat) : LogEntry :=
  ⟨.debug, LogTarget.builder, "Field '" ++ field.text ++
    "' registered again; replacing rule at position " ++ toString position ++ "."⟩

/-- Adding the rule replaces the one at a place: the index knows the rule's field and leads there, the log
says so, and the rule is set there. -/
structure Replaces (b : Builder) (rule : Rule) (position : Nat) (b' : Builder) : Prop where
  index_eq : b.index[rule.field]? = some position
  eq_set : b' = { b with rules := b.rules.set position rule }
  logs : (b.add rule.source).Logs (.ok b') [rule.compileRecord, replacementRecord rule.field position]

/-- Adding the rule puts it at the end: the index does not know its field, and is told of it. -/
structure Appends (b : Builder) (rule : Rule) (b' : Builder) : Prop where
  index_eq : b.index[rule.field]? = none
  eq_append : b' = { b with
    rules := b.rules ++ [rule], index := b.index.insert rule.field b.rules.length }
  logs : (b.add rule.source).Logs (.ok b') [rule.compileRecord]

/-- A rule that replaces another is not put at the end as well. -/
theorem Replaces.not_appends {b'' : Builder} (h : b.Replaces rule position b') :
    ¬b.Appends rule b'' := by
  intro happends
  have hindex := happends.index_eq
  rw [h.index_eq] at hindex
  cases hindex

theorem ensureOpen_logs (h : b.state = .opened) : Building.Logs ensureOpen b (.ok ()) b [] := by
  obtain ⟨rules, state⟩ := b
  cases h
  exact Building.Logs.pure ()

/-- What is left of registering a rule once it has been compiled. -/
theorem register_logs {entries : Log} (h : b.state = .opened)
    (hrest : Building.Logs (do
        if let some position := b.index[rule.field]? then
          logReplacement rule.field position
        modify fun b => { b with toRuleSet := b.toRuleSet.insert rule }) b (.ok ()) b' entries) :
    Building.Logs (register rule.source) b (.ok ()) b' (rule.compileRecord :: entries) :=
  (ensureOpen_logs h).bind_ok
    ((Building.Logs.ofAttempt rule.compile_logs).bind_ok (Building.Logs.get.bind_ok hrest))

theorem replaces_of_some (h : b.state = .opened) (hposition : b.index[rule.field]? = some position) :
    b.Replaces rule position { b with rules := b.rules.set position rule } where
  index_eq := hposition
  eq_set := rfl
  logs := by
    have hinsert : b.toRuleSet.insert rule = { b.toRuleSet with rules := b.rules.set position rule } := by
      rw [RuleSet.insert, hposition]
    refine (register_logs h ?_).after.map Prod.snd
    rw [hposition, ← hinsert]
    exact (Building.Logs.log _ _ _).bind_ok (Building.Logs.modify _)

theorem appends_of_none (h : b.state = .opened) (hnone : b.index[rule.field]? = none) :
    b.Appends rule { b with
      rules := b.rules ++ [rule], index := b.index.insert rule.field b.rules.length } where
  index_eq := hnone
  eq_append := rfl
  logs := by
    have hinsert : b.toRuleSet.insert rule =
        ⟨b.rules ++ [rule], b.index.insert rule.field b.rules.length⟩ := by
      rw [RuleSet.insert, hnone]
    refine (register_logs h ?_).after.map Prod.snd
    rw [hnone, ← hinsert]
    exact Building.Logs.modify _

/-- Adding a rule takes one of two ways, and the fields of the rules that have been registered tell
which. -/
theorem add_cases {taken : List RuleSource} (h : b.state = .opened) (hb : b.Holds taken) (rule : Rule) :
    ∃ b' : Builder, b'.state = .opened ∧ b'.Holds (taken ++ [rule.source]) ∧
      (((∃ position, b.Replaces rule position b') ∧ rule.field ∈ taken.map RuleSource.field) ∨
        (b.Appends rule b' ∧ rule.field ∉ taken.map RuleSource.field)) := by
  rw [← hb.mem_fields_iff]
  cases hindex : b.index[rule.field]? with
  | some position =>
    have hmem : rule.field ∈ b.fields := List.mem_of_getElem? ((hb.index_iff _ _).mp hindex)
    exact ⟨{ b with rules := b.rules.set position rule }, h, hb.set hindex,
      .inl ⟨⟨position, replaces_of_some h hindex⟩, hmem⟩⟩
  | none =>
    refine ⟨{ b with rules := b.rules ++ [rule], index := b.index.insert rule.field b.rules.length }, h,
      hb.append hindex, .inr ⟨appends_of_none h hindex, ?_⟩⟩
    intro hmem
    obtain ⟨i, hi⟩ := List.mem_iff_getElem?.mp hmem
    rw [(hb.index_iff _ _).mpr hi] at hindex
    cases hindex

end Builder

/-! ### Building, rule by rule -/

namespace RuleFile

variable {f : RuleFile} {i : Nat} {spec : RuleSpec} {s : RuleSet}

/-- What is left of building a rule file with the rules from a place on. -/
def buildFrom (f : RuleFile) (i : Nat) (b : Builder) : Attempt Report RuleSet := do
  let b ← addRules b (f.rules.drop i)
  let (rules, _) ← b.build.mapError Report.ofError
  log .debug LogTarget.config ("Built engine from config: " ++ rules.describe)
  return rules

/-- Building goes through every rule: it adds those before it, then the rule, then those after it. -/
theorem build_eq_of_getElem? (hi : f.rules[i]? = some spec) :
    f.build = (do
      let b ← addRules Builder.empty (f.rules.take i)
      let b ← within spec.field (b.add spec.toRuleSource)
      f.buildFrom (i + 1) b) := by
  obtain ⟨hlt, rfl⟩ := List.getElem?_eq_some_iff.mp hi
  have hne : f.rules ≠ [] := List.ne_nil_of_length_pos (by omega)
  have hsplit : f.rules = f.rules.take i ++ f.rules[i] :: f.rules.drop (i + 1) := by
    rw [← List.drop_eq_getElem_cons hlt, List.take_append_drop]
  rw [build_eq_foldlM hne]
  conv_lhs => rw [hsplit]
  simp only [buildFrom, addRules_eq_foldlM, List.foldlM_append, List.foldlM_cons, bind_assoc]

/-- Building comes to the rule at a place with this builder. -/
def Reaches (f : RuleFile) (i : Nat) (b : Builder) : Prop :=
  (addRules Builder.empty (f.rules.take i)).Yields (.ok b)

theorem Reaches.unique {b b' : Builder} (h : f.Reaches i b) (h' : f.Reaches i b') : b = b' :=
  Except.ok.inj (Attempt.Yields.unique h h')

/-- Building comes to the next rule with what adding this one makes of the builder. -/
theorem Reaches.succ {b b' : Builder} {entries : Log} (h : f.Reaches i b) (hi : f.rules[i]? = some spec)
    (hadd : (b.add spec.toRuleSource).Logs (.ok b') entries) : f.Reaches (i + 1) b' := by
  have hsucc : f.rules.take (i + 1) = f.rules.take i ++ [spec] := by
    rw [List.take_add_one, hi]
    rfl
  unfold Reaches at h ⊢
  rw [addRules_eq_foldlM] at h ⊢
  rw [hsucc, List.foldlM_append]
  refine h.bind_ok ?_
  rw [List.foldlM_cons]
  exact (hadd.mapError _).yields.bind_ok (Attempt.Yields.pure b')

/-- If building does not fail, then no rule does. -/
theorem compiles_of_build (h : f.build.Yields (.ok s)) : ∀ r ∈ f.rules, r.Compiles := by
  intro r hr
  exact ((build_ensures f).of_yields h).compiles _ (List.mem_map_of_mem hr)

/-- Building comes to every rule with a builder that holds what is left of the rules before it, and takes
the rule in one of the two ways. -/
theorem reaches_step (h : f.build.Yields (.ok s)) (hi : f.rules[i]? = some spec) :
    ∃ (rule : Rule) (b b' : Builder), rule.source = spec.toRuleSource ∧ f.Reaches i b ∧
      f.Reaches (i + 1) b' ∧
      (((∃ position, b.Replaces rule position b') ∧ spec.field ∈ (f.rules.take i).map (·.field)) ∨
        (b.Appends rule b' ∧ spec.field ∉ (f.rules.take i).map (·.field))) := by
  have hcompiles := compiles_of_build h
  have htake : ∀ r ∈ f.rules.take i, r.Compiles := fun r hr => hcompiles r (List.mem_of_mem_take hr)
  obtain ⟨b, hopened, hholds, hreaches⟩ :=
    adds_within.foldlM_of_ok (b := Builder.empty) rfl RuleSet.holds_empty htake
  rw [← addRules_eq_foldlM] at hreaches
  rw [List.nil_append] at hholds
  obtain ⟨rule, hrule⟩ := hcompiles spec (List.mem_of_getElem? hi)
  have hsource : rule.source = spec.toRuleSource := RuleSource.compile?_eq_ok_iff.mp hrule
  have hfields : (f.rules.take i).map (·.field) =
      ((f.rules.take i).map RuleSpec.toRuleSource).map RuleSource.field := by
    rw [List.map_map]
    rfl
  have hfield : spec.field = rule.field := (congrArg RuleSource.field hsource).symm
  obtain ⟨b', -, -, hcases⟩ := Builder.add_cases hopened hholds rule
  rw [hfields, hfield]
  refine ⟨rule, b, b', hsource, hreaches, ?_, hcases⟩
  rcases hcases with ⟨⟨position, hreplaces⟩, -⟩ | ⟨happends, -⟩
  · exact Reaches.succ hreaches hi (hsource ▸ hreplaces.logs)
  · exact Reaches.succ hreaches hi (hsource ▸ happends.logs)

/-- The field of a rule is among those of the rules before it if one of these is for it. -/
theorem mem_fields_take_iff {field : FieldId} :
    field ∈ (f.rules.take i).map (·.field) ↔
      ∃ (j : Nat) (earlier : RuleSpec), j < i ∧ f.rules[j]? = some earlier ∧ earlier.field = field := by
  rw [List.mem_map]
  constructor
  · rintro ⟨earlier, hmem, hfield⟩
    obtain ⟨j, hj⟩ := List.mem_iff_getElem?.mp hmem
    rw [List.getElem?_take] at hj
    split at hj
    · exact ⟨j, earlier, by assumption, hj, hfield⟩
    · cases hj
  · rintro ⟨j, earlier, hlt, hj, hfield⟩
    refine ⟨earlier, ?_, hfield⟩
    apply List.mem_of_getElem? (i := j)
    rw [List.getElem?_take_of_lt hlt, hj]

/-! ### Warnings of repeated fields -/

namespace Warning

/-- Whether the warning is of a repeated field. -/
def isRepetition : Warning → Bool
  | .repeatedField _ => true
  | .emptyPattern _ => false
  | .badTemplate _ _ _ => false

/-- What the warnings of repeated fields end with. -/
def repetitionEnd : String := "' appears more than once; the last rule replaces the earlier one."

/-- Whether a text is a warning of a repeated field. -/
def saysRepetition (text : String) : Bool := repetitionEnd.toList.isSuffixOf text.toList

/-- A text ends as a warning of a repeated field does if its end does, and is not shorter. -/
theorem saysRepetition_append_eq_false {front back : String} (hback : ¬repetitionEnd.toList <:+ back.toList)
    (hback' : ¬back.toList <:+ repetitionEnd.toList) : saysRepetition (front ++ back) = false := by
  rw [saysRepetition, ← Bool.not_eq_true, List.isSuffixOf_iff_suffix, String.toList_append]
  intro h
  rcases List.suffix_or_suffix_of_suffix h (List.suffix_append _ _) with h | h
  · exact hback h
  · exact hback' h

/-- What a warning says tells whether it is of a repeated field. -/
theorem saysRepetition_message (w : Warning) : saysRepetition w.message = w.isRepetition := by
  cases w with
  | repeatedField field =>
    rw [saysRepetition, message, isRepetition, List.isSuffixOf_iff_suffix, String.toList_append]
    exact List.suffix_append _ _
  | emptyPattern field => exact saysRepetition_append_eq_false (by decide) (by decide)
  | badTemplate field template e => exact saysRepetition_append_eq_false (by decide) (by decide)

/-- A warning of a repeated field says of which, and no other warning says the same. -/
theorem message_eq_repeatedField_iff {w : Warning} {field : FieldId} :
    w.message = (repeatedField field).message ↔ w = repeatedField field := by
  constructor
  · intro h
    have hrepetition : w.isRepetition = true := by
      rw [← saysRepetition_message, h, saysRepetition_message]
      rfl
    cases w with
    | repeatedField other =>
      rw [message, message, String.append_left_inj, String.append_right_inj] at h
      exact congrArg (fun text => repeatedField ⟨text⟩) h
    | emptyPattern other => cases hrepetition
    | badTemplate other template e => cases hrepetition
  · exact congrArg message

end Warning

/-- Of a rule there is at most one warning of a repeated field, and there is one if the field has been
seen. -/
theorem filter_ruleWarnings (seen : List FieldId) (r : RuleSpec) :
    (ruleWarnings seen r).filter Warning.isRepetition =
      if r.field ∈ seen then [.repeatedField r.field] else [] := by
  have htemplate : (templateWarning? r).toList.filter Warning.isRepetition = [] := by
    cases hw : templateWarning? r with
    | none => rfl
    | some w =>
      obtain ⟨e, -, rfl⟩ := templateWarning?_eq_some_iff.mp hw
      rfl
  have hpattern : (if r.pattern.isEmpty then [Warning.emptyPattern r.field] else []).filter
      Warning.isRepetition = [] := by
    split <;> rfl
  rw [ruleWarnings, List.filter_append, List.filter_append, htemplate, hpattern, List.append_nil,
    List.append_nil]
  by_cases hseen : r.field ∈ seen
  · rw [if_pos hseen, if_pos (by simpa using hseen)]
    rfl
  · rw [if_neg hseen, if_neg (by simpa using hseen)]
    rfl

theorem repeatedField_mem_warningsAt_iff (hi : f.rules[i]? = some spec) {field : FieldId} :
    .repeatedField field ∈ f.warningsAt i ↔
      field = spec.field ∧ spec.field ∈ (f.rules.take i).map (·.field) := by
  have hfilter : Warning.repeatedField field ∈ f.warningsAt i ↔
      Warning.repeatedField field ∈ (f.warningsAt i).filter Warning.isRepetition := by
    simp [Warning.isRepetition]
  rw [hfilter, warningsAt, hi]
  dsimp only
  rw [filter_ruleWarnings]
  by_cases hseen : spec.field ∈ (f.rules.take i).map (·.field)
  · rw [if_pos (List.mem_reverse.mpr hseen), List.mem_singleton, Warning.repeatedField.injEq]
    exact (and_iff_left hseen).symm
  · rw [if_neg (mt List.mem_reverse.mp hseen)]
    exact iff_of_false List.not_mem_nil fun h => hseen h.2

/-! ### How many there are -/

/-- The warnings of repeated fields. -/
def repetitions (specs : List RuleSpec) : List Warning :=
  (warningsFrom [] specs).filter Warning.isRepetition

theorem warningsFrom_append (seen : List FieldId) (specs specs' : List RuleSpec) :
    warningsFrom seen (specs ++ specs') =
      warningsFrom seen specs ++ warningsFrom ((specs.map (·.field)).reverse ++ seen) specs' := by
  induction specs generalizing seen with
  | nil => rfl
  | cons r rest ih =>
    rw [List.cons_append, warningsFrom, warningsFrom, ih, List.map_cons, List.reverse_cons,
      List.append_assoc, List.append_assoc]
    rfl

/-- One more rule brings about one more warning if its field has come up. -/
theorem repetitions_append_singleton (specs : List RuleSpec) (r : RuleSpec) :
    repetitions (specs ++ [r]) = repetitions specs ++
      if r.field ∈ specs.map (·.field) then [.repeatedField r.field] else [] := by
  rw [repetitions, repetitions, warningsFrom_append, List.filter_append, warningsFrom, warningsFrom,
    List.append_nil, List.append_nil, filter_ruleWarnings]
  simp only [List.mem_reverse]

/-- The fields of rules that are written down are those of the rules. -/
theorem map_field_map_toRuleSource (specs : List RuleSpec) :
    (specs.map RuleSpec.toRuleSource).map RuleSource.field = specs.map (·.field) := by
  rw [List.map_map]
  rfl

/-- Every rule either is warned of or leaves one more rule. -/
theorem length_repetitions_add (specs : List RuleSpec) :
    (repetitions specs).length + (RuleSource.settle (specs.map RuleSpec.toRuleSource)).length =
      specs.length := by
  induction specs using List.reverseRecOn with
  | nil => rfl
  | append_singleton rest r ih =>
    rw [repetitions_append_singleton, List.map_append, List.map_singleton, List.length_append,
      List.length_append]
    by_cases hmem : r.field ∈ rest.map (·.field)
    · rw [if_pos hmem, RuleSource.settle_append_of_mem (by rwa [map_field_map_toRuleSource]),
        List.length_map, List.length_singleton, List.length_singleton]
      omega
    · rw [if_neg hmem, RuleSource.settle_append_of_not_mem (by rwa [map_field_map_toRuleSource]),
        List.length_append, List.length_singleton, List.length_singleton, List.length_nil]
      omega

/-- Of a field there is a warning for every rule but the first. -/
theorem count_repetitions (specs : List RuleSpec) (field : FieldId) :
    (repetitions specs).count (.repeatedField field) = specs.countP (·.field = field) - 1 := by
  induction specs using List.reverseRecOn with
  | nil => rfl
  | append_singleton rest r ih =>
    rw [repetitions_append_singleton, List.count_append, ih, List.countP_append, List.countP_singleton]
    by_cases hfield : r.field = field
    · have hmem : r.field ∈ rest.map (·.field) ↔ 0 < rest.countP (·.field = field) := by
        rw [List.countP_pos_iff, hfield]
        simp
      by_cases hrest : r.field ∈ rest.map (·.field)
      · have hpos := hmem.mp hrest
        rw [if_pos hrest, if_pos (by simpa using hfield), hfield, List.count_singleton_self]
        omega
      · have hzero := mt hmem.mpr hrest
        rw [if_neg hrest, if_pos (by simpa using hfield), List.count_nil]
        omega
    · rw [if_neg (show ¬decide (r.field = field) = true by simpa using hfield), Nat.add_zero]
      split
      · rw [List.count_singleton, if_neg, Nat.add_zero]
        simpa using hfield
      · rfl

/-- There is no warning exactly if every rule is left. -/
theorem repetitions_eq_nil_iff (specs : List RuleSpec) :
    repetitions specs = [] ↔
      RuleSource.settle (specs.map RuleSpec.toRuleSource) = specs.map RuleSpec.toRuleSource := by
  have hlength := length_repetitions_add specs
  constructor
  · intro hnil
    apply RuleSource.settle_of_nodup
    rw [map_field_map_toRuleSource, List.nodup_iff_count_le_one]
    intro field
    have hcount := count_repetitions specs field
    rw [hnil, List.count_nil] at hcount
    rw [List.count_eq_countP, List.countP_map]
    have : specs.countP ((· == field) ∘ fun r => r.field) = specs.countP (·.field = field) := by
      refine List.countP_congr fun r _ => ?_
      simp
    omega
  · intro hsettle
    rw [hsettle, List.length_map] at hlength
    exact List.length_eq_zero_iff.mp (by omega)

/-- The rule file of a rule set is made of how its rules are written. -/
theorem ofRuleSet_eq_iff {specs : List RuleSpec} :
    ofRuleSet s = ⟨specs.map fun r => { r with description := none }⟩ ↔
      s.rules.map Rule.source = specs.map RuleSpec.toRuleSource := by
  have hinjective : Function.Injective fun source : RuleSource => RuleSpec.mk source none := by
    intro source source' h
    exact (RuleSpec.mk.inj h).1
  have hrules : (s.rules.map fun r => RuleSpec.mk r.source none) =
      (s.rules.map Rule.source).map fun source => RuleSpec.mk source none := by
    rw [List.map_map]
    rfl
  have hspecs : (specs.map fun r => { r with description := none }) =
      (specs.map RuleSpec.toRuleSource).map fun source => RuleSpec.mk source none := by
    rw [List.map_map]
    rfl
  rw [ofRuleSet, RuleFile.mk.injEq, hrules, hspecs]
  exact (List.map_injective_iff.mpr hinjective).eq_iff

/-- **Checking marks the rules that are replaced.** If a rule file builds, then building comes to each rule
with some builder and either replaces a rule or puts this one at the end. It replaces one exactly if an
earlier rule is for the same field, and exactly then is there a warning that this field is repeated. So there
are as many such warnings as there are rules in the file but not in the rule set, of each field one less
than it has rules, and none exactly if the rule set gives back the rules of the file. -/
theorem lint_marks_replacements (h : f.build.Yields (.ok s)) :
    (∀ (i : Nat) (spec : RuleSpec), f.rules[i]? = some spec →
      f.build = (do
        let b ← addRules Builder.empty (f.rules.take i)
        let b ← within spec.field (b.add spec.toRuleSource)
        f.buildFrom (i + 1) b) ∧
      ∃ (rule : Rule) (b b' : Builder), rule.source = spec.toRuleSource ∧ f.Reaches i b ∧
        f.Reaches (i + 1) b' ∧ ((∃ position, b.Replaces rule position b') ∨ b.Appends rule b') ∧
        ((∃ position, b.Replaces rule position b') ↔
          ∃ (j : Nat) (earlier : RuleSpec),
            j < i ∧ f.rules[j]? = some earlier ∧ earlier.field = spec.field) ∧
        ∀ field : FieldId, .repeatedField field ∈ f.warningsAt i ↔
          field = spec.field ∧ ∃ position, b.Replaces rule position b') ∧
    ∃ texts : List String, f.lint.Yields texts ∧
      texts = ((List.range f.rules.length).flatMap f.warningsAt).map Warning.message ∧
      (∀ w : Warning, Warning.saysRepetition w.message = true ↔ ∃ field, w = .repeatedField field) ∧
      texts.countP Warning.saysRepetition = f.rules.length - s.rules.length ∧
      s.rules.length ≤ f.rules.length ∧
      (∀ field : FieldId, texts.count (Warning.repeatedField field).message =
        f.rules.countP (·.field = field) - 1) ∧
      ((∀ text ∈ texts, Warning.saysRepetition text = false) ↔
        ofRuleSet s = ⟨f.rules.map fun spec => { spec with description := none }⟩) := by
  constructor
  · intro i spec hi
    obtain ⟨rule, b, b', hsource, hreaches, hreaches', hcases⟩ := reaches_step h hi
    have hreplaces : (∃ position, b.Replaces rule position b') ↔
        spec.field ∈ (f.rules.take i).map (·.field) := by
      rcases hcases with ⟨hreplaces, hmem⟩ | ⟨happends, hmem⟩
      · exact iff_of_true hreplaces hmem
      · exact iff_of_false (fun ⟨_, hreplaces⟩ => hreplaces.not_appends happends) hmem
    refine ⟨build_eq_of_getElem? hi, rule, b, b', hsource, hreaches, hreaches', ?_, ?_, fun field => ?_⟩
    · exact hcases.imp And.left And.left
    · rw [hreplaces, mem_fields_take_iff]
    · rw [hreplaces, repeatedField_mem_warningsAt_iff hi]
  · have hsources : s.rules.map Rule.source = RuleSource.settle (f.rules.map RuleSpec.toRuleSource) :=
      (holds_of_build h).sources_eq
    have hlength := length_repetitions_add f.rules
    rw [← hsources, List.length_map] at hlength
    have hsays : Warning.saysRepetition ∘ Warning.message = Warning.isRepetition :=
      funext Warning.saysRepetition_message
    have hcount : (f.warnings.map Warning.message).countP Warning.saysRepetition =
        (repetitions f.rules).length := by
      rw [List.countP_map, hsays, List.countP_eq_length_filter]
      rfl
    refine ⟨f.warnings.map Warning.message, lint_yields f, by rw [warnings_eq_flatMap], fun w => ?_,
      by omega, by omega, fun field => ?_, ?_⟩
    · rw [Warning.saysRepetition_message]
      cases w <;> simp [Warning.isRepetition]
    · rw [← count_repetitions, repetitions, List.count_filter (by rfl), List.count_eq_countP,
        List.countP_map, List.count_eq_countP]
      refine List.countP_congr fun w _ => ?_
      simpa using Warning.message_eq_repeatedField_iff
    · rw [ofRuleSet_eq_iff, hsources, ← repetitions_eq_nil_iff, ← List.length_eq_zero_iff, ← hcount,
        List.countP_eq_zero]
      simp only [Bool.not_eq_true]

/-- Of three rules for two fields, the last takes the place of the first, and there is one warning. -/
theorem lint_marks_replacements_three :
    ∃ (f : RuleFile) (s : RuleSet), f.rules.map (·.field) = [⟨"a"⟩, ⟨"b"⟩, ⟨"a"⟩] ∧
      f.build.Yields (.ok s) ∧ s.fields = [⟨"a"⟩, ⟨"b"⟩] ∧
      ∃ texts : List String, f.lint.Yields texts ∧ texts.countP Warning.saysRepetition = 1 ∧
        texts.count "Field 'a' appears more than once; the last rule replaces the earlier one." = 1 := by
  let f : RuleFile := ⟨[⟨⟨⟨"a"⟩, "1", "x"⟩, none⟩, ⟨⟨⟨"b"⟩, "2", "y"⟩, none⟩, ⟨⟨⟨"a"⟩, "3", "z"⟩, none⟩]⟩
  have hok : ∀ r ∈ f.rules, r.Compiles :=
    RuleSource.forall_compiles_of_all RuleSpec.toRuleSource (by decide +kernel)
  obtain ⟨s, hholds, hs⟩ := build_of_ok (f := f) (List.cons_ne_nil _ _) hok
  have hfields : s.fields = [⟨"a"⟩, ⟨"b"⟩] := by
    rw [← RuleSet.map_field_map_source, hholds.sources_eq]
    decide
  have hlength : s.rules.length = 2 := by
    rw [← List.length_map (f := Rule.field)]
    exact congrArg List.length hfields
  obtain ⟨-, texts, hlint, -, -, hcount, -, hfield, -⟩ := lint_marks_replacements hs
  refine ⟨f, s, rfl, hs, hfields, texts, hlint, ?_, ?_⟩
  · rw [hcount, hlength]
    rfl
  · exact hfield ⟨"a"⟩

end RuleFile

end Fieldwise
