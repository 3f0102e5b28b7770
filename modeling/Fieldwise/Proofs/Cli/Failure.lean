import Fieldwise.Proofs.Cli.Action
import Mathlib.Data.List.Basic

/-!
# Runs that fail

Whatever can fail in a command comes before the first thing that lasts: rules are loaded and built, values
are collected, a record is read, and only then does the command print or write. Opening the file that it
writes is the last step that can fail.

`Command.outcome` are the steps that can fail, in their order and without what is told on the way. Actions
that tell no more than notes while they come to a result are closed under being put one after another
(`Action.Prepares`), and an action behind them may do more once nothing can fail any longer (`Action.Ends`).
Every command ends in its outcome (`Call.run_ends`), so that nothing but notes comes before an error.
-/

namespace Fieldwise.Cli

/-! ### Notes -/

/-- Whether an event is a message other than that of an error. -/
def Event.isNote : Event → Bool
  | .logged _ => true
  | .status kind _ => kind ≠ .error
  | .printed _ | .wrote _ _ => false

/-- A note adds nothing to the output and writes no file. -/
theorem Event.isLasting_of_isNote {e : Event} (h : e.isNote) : e.isLasting = false := by
  cases e with
  | logged entry => rfl
  | status kind message => rfl
  | printed bytes => exact absurd h Bool.false_ne_true
  | wrote path bytes => exact absurd h Bool.false_ne_true

/-- Nothing lasts of notes. -/
theorem filter_isLasting_notes {notes : List Event} (h : ∀ e ∈ notes, e.isNote) :
    notes.filter Event.isLasting = [] := by
  rw [List.filter_eq_nil_iff]
  intro e he
  rw [Event.isLasting_of_isNote (h e he)]
  exact Bool.false_ne_true

/-! ### Actions that tell notes -/

namespace Action

variable {α β : Type} {action : Action α} {next : α → Action β} {result : Except Report α}
  {rest : α → Except Report β} {x : α} {y : β} {r : Except Report β}

/-- The action comes to the result, and all that it adds are notes. -/
def Prepares (action : Action α) (result : Except Report α) : Prop :=
  ∃ notes : List Event, action.Adds result notes ∧ ∀ e ∈ notes, e.isNote

/-- The action comes to the result, and all that it adds are notes if this is an error. -/
def Ends (action : Action α) (result : Except Report α) : Prop :=
  ∃ events : List Event, action.Adds result events ∧
    ∀ report, result = .error report → ∀ e ∈ events, e.isNote

theorem Prepares.ends (h : action.Prepares result) : action.Ends result := by
  obtain ⟨notes, hadds, hnotes⟩ := h
  exact ⟨notes, hadds, fun _ _ => hnotes⟩

theorem Prepares.ofExcept (result : Except Report α) :
    (MonadExcept.ofExcept result : Action α).Prepares result :=
  ⟨[], Adds.ofExcept result, List.forall_mem_nil _⟩

theorem Prepares.pure (x : α) : (Pure.pure x : Action α).Prepares (.ok x) := Prepares.ofExcept (.ok x)

theorem Prepares.throw (report : Report) :
    (MonadExcept.throw report : Action α).Prepares (.error report) := Prepares.ofExcept (.error report)

theorem Prepares.emit {e : Event} (h : e.isNote) : (Action.emit e).Prepares (.ok ()) :=
  ⟨[e], Adds.emit e, List.forall_mem_singleton.mpr h⟩

theorem Prepares.log (level : LogLevel) (target message : String) :
    (Action.log level target message).Prepares (.ok ()) := Prepares.emit rfl

/-- What the library logs on its way are notes. -/
theorem Prepares.attempt (attempt : Attempt Report α) :
    (Action.attempt attempt).Prepares attempt.run'.1 := by
  refine ⟨attempt.run'.2.map .logged, Adds.attempt attempt, fun e he => ?_⟩
  obtain ⟨entry, -, rfl⟩ := List.mem_map.mp he
  rfl

theorem Prepares.then_prepares (h : action.Prepares (.ok x)) (h' : (next x).Prepares r) :
    (action >>= next).Prepares r := by
  obtain ⟨notes, hadds, hnotes⟩ := h
  obtain ⟨notes', hadds', hnotes'⟩ := h'
  exact ⟨notes ++ notes', hadds.bind_ok hadds', List.forall_mem_append.mpr ⟨hnotes, hnotes'⟩⟩

/-- Notes come one after another. -/
theorem Prepares.bind (h : action.Prepares result) (h' : ∀ x, (next x).Prepares (rest x)) :
    (action >>= next).Prepares (result >>= rest) := by
  cases result with
  | error report =>
    obtain ⟨notes, hadds, hnotes⟩ := h
    exact ⟨notes, hadds.bind_error, hnotes⟩
  | ok x => exact h.then_prepares (h' x)

theorem Prepares.then_ends (h : action.Prepares (.ok x)) (h' : (next x).Ends r) :
    (action >>= next).Ends r := by
  obtain ⟨notes, hadds, hnotes⟩ := h
  obtain ⟨events, hadds', hevents⟩ := h'
  refine ⟨notes ++ events, hadds.bind_ok hadds', fun report hreport => ?_⟩
  exact List.forall_mem_append.mpr ⟨hnotes, hevents report hreport⟩

/-- An action that ends in a result still does so behind one that only prepares it. -/
theorem Prepares.bind_ends (h : action.Prepares result) (h' : ∀ x, (next x).Ends (rest x)) :
    (action >>= next).Ends (result >>= rest) := by
  cases result with
  | error report =>
    obtain ⟨notes, hadds, hnotes⟩ := h
    exact ⟨notes, hadds.bind_error, fun _ _ => hnotes⟩
  | ok x => exact h.then_ends (h' x)

theorem Ends.emit (e : Event) : (Action.emit e).Ends (.ok ()) := ⟨[e], Adds.emit e, nofun⟩

/-- Once nothing can fail any longer, whatever happens may be more than a note. -/
theorem Ends.then_ends (h : action.Ends (.ok x)) (h' : (next x).Ends (.ok y)) :
    (action >>= next).Ends (.ok y) := by
  obtain ⟨events, hadds, -⟩ := h
  obtain ⟨events', hadds', -⟩ := h'
  exact ⟨events ++ events', hadds.bind_ok hadds', nofun⟩

/-- Status lines are notes but for those of errors. -/
theorem Prepares.forM_status {γ : Type} {kind : StatusKind} (h : kind ≠ .error) (describe : γ → String)
    (news : List γ) :
    (news.forM fun n => Action.status kind (describe n)).Prepares (.ok ()) := by
  induction news with
  | nil => exact Prepares.pure ()
  | cons n rest ih =>
    have hnote : (Event.status kind (describe n)).isNote := decide_eq_true h
    exact (Prepares.emit hnote).bind fun _ => ih

end Action

/-! ### The steps that can fail -/

/-- What comes of loading and building. -/
def loadedRules (w : World) (path : String) : Except Report (RuleFile × RuleSet) := do
  let file ← (RuleFile.load w.read path).run'.1
  let rules ← file.build.run'.1
  return (file, rules)

/-- What comes of applying rules. -/
def appliedRules (w : World) (rules : RuleSet) (values : Values) : Except Report Outcome :=
  (Attempt.run' <|
    Attempt.mapError
      (fun e => (Report.ofError e).within "Failed to apply field substitutions")
      (rules.apply w.disclosure values.finder)).1

/-- Whether a file can be written. -/
def World.writable (w : World) (path : String) : Except Report Unit :=
  match w.writeFault? path with
  | some e => .error (writeReport path e)
  | none => .ok ()

/-- What comes of a command: its steps that can fail, in their order. -/
def Command.outcome (w : World) : Command → Except Report Unit
  | .apply rules values fields _ _ => do
    let (_, rules) ← loadedRules w rules
    let values ← Values.collect w.read values fields
    let _ ← appliedRules w rules values
    return ()
  | .check rules => do
    let _ ← loadedRules w rules
    return ()
  | .encode rules _ output => do
    let _ ← loadedRules w rules
    output.elim (.ok ()) w.writable
  | .decode input format => do
    let bytes ← recordBytes w input
    let _ ← (RuleSet.decode format bytes).run'.1
    return ()

section Commands

variable (w : World)

theorem loadRules_prepares (path : String) : (loadRules w path).Prepares (loadedRules w path) :=
  (Action.Prepares.attempt _).bind fun _ =>
    (Action.Prepares.attempt _).bind fun _ => Action.Prepares.pure _

theorem runApply_ends (rules : String) (values : Option String) (fields : List (String × String))
    (report json : Bool) : (runApply w rules values fields report json).Ends
      (Command.outcome w (.apply rules values fields report json)) := by
  refine (Action.Prepares.log _ _ _).then_ends ?_
  refine (loadRules_prepares w rules).bind_ends fun ⟨_, rules⟩ => ?_
  refine (Action.Prepares.ofExcept _).bind_ends fun values => ?_
  refine (Action.Prepares.log _ _ _).then_ends ?_
  refine (Action.Prepares.attempt _).bind_ends fun outcome => ?_
  -- The text is the first thing that lasts, and from here on nothing fails.
  refine (Action.Ends.emit _).then_ends ?_
  split
  · exact (Action.Prepares.forM_status (by decide) _ _).ends.then_ends (Action.Prepares.log _ _ _).ends
  · exact (Action.Prepares.log _ _ _).ends

/-- Checking tells notes and does nothing else. -/
theorem runCheck_prepares (rules : String) (quiet : Bool) :
    (runCheck w rules quiet).Prepares (Command.outcome w (.check rules)) := by
  refine (loadRules_prepares w rules).bind fun ⟨file, rules⟩ => ?_
  -- Lint makes warnings and no errors.
  have hlint : (liftM file.lint : Attempt Report (List String)).run'.1 = .ok file.lint.run'.1 := rfl
  have hwarnings := Action.Prepares.attempt (liftM file.lint)
  rw [hlint] at hwarnings
  refine hwarnings.then_prepares ?_
  refine (Action.Prepares.log _ _ _).then_prepares ?_
  split
  · exact (Action.Prepares.forM_status (by decide) _ _).then_prepares (Action.Prepares.emit rfl)
  · exact Action.Prepares.pure ()

theorem runCheck_ends (rules : String) (quiet : Bool) :
    (runCheck w rules quiet).Ends (Command.outcome w (.check rules)) :=
  (runCheck_prepares w rules quiet).ends

theorem writeFile_ends (path : String) (bytes : List UInt8) :
    (writeFile w path bytes).Ends (w.writable path) := by
  rw [writeFile, World.writable]
  cases w.writeFault? path with
  | some e => exact (Action.Prepares.throw _).ends
  | none => exact Action.Ends.emit _

theorem runEncode_ends (rules : String) (format : RecordFormat) (output : Option String) (quiet : Bool) :
    (runEncode w rules format output quiet).Ends (Command.outcome w (.encode rules format output)) := by
  refine (loadRules_prepares w rules).bind_ends fun ⟨_, rules⟩ => ?_
  refine (Action.Prepares.log _ _ _).then_ends ?_
  cases output with
  | none => exact Action.Ends.emit _
  | some path =>
    cases quiet with
    | true => exact writeFile_ends w path _
    | false => exact (Action.Prepares.emit rfl).then_ends (writeFile_ends w path _)

/-- Nothing can fail any longer when a record has been decoded. -/
theorem print_decoded_ends (format : RecordFormat) (bytes : List UInt8) :
    Action.Ends
      (do
        let rules ← Action.attempt (RuleSet.decode format bytes)
        Action.log .info "codec" ("Decoded and validated " ++ toString rules.size ++ " rule(s).")
        Action.print (RuleFile.ofRuleSet rules).toYaml)
      (do
        let _ ← (RuleSet.decode format bytes).run'.1
        return ()) :=
  (Action.Prepares.attempt _).bind_ends fun _ =>
    (Action.Prepares.log _ _ _).then_ends (Action.Ends.emit _)

theorem runDecode_ends (input : Option String) (format : RecordFormat) :
    (runDecode w input format).Ends (Command.outcome w (.decode input format)) :=
  (Action.Prepares.ofExcept _).bind_ends (print_decoded_ends format)

/-- Every command ends in its outcome: before an error there are but notes. -/
theorem Call.run_ends (c : Call) : (c.run w).Ends (c.command.outcome w) := by
  obtain ⟨command, quiet, debug⟩ := c
  cases command with
  | apply rules values fields report json => exact runApply_ends w rules values fields report json
  | check rules => exact runCheck_ends w rules quiet
  | encode rules format output => exact runEncode_ends w rules format output quiet
  | decode input format => exact runDecode_ends w input format

end Commands

/-! ### Runs -/

/-- The run failed: it printed and wrote nothing, and the last of its messages is the report, which says what
was being done, the outermost first, and then the causes. -/
structure Result.Fails (r : Result) (earlier : String) (report : Report) : Prop where
  exitCode_eq : r.exitCode = 1
  output_eq : r.output = []
  written_eq : r.written = []
  messages_eq : r.messages =
    earlier ++ "[error] " ++ ": ".intercalate (report.contexts ++ report.cause.messages) ++ "\n"

/-- The messages of a call that are made of its settings and of what happens in its run. -/
def Call.told (w : World) (c : Call) (events : List Event) : String :=
  String.join ((c.logFilter w).2.map (fun e => "warning: " ++ e ++ ", ignoring it\n") ++
    events.map (Event.message (c.logFilter w).1))

/-- Notes and the message of an error are nothing that lasts. -/
theorem filter_isLasting_report {notes : List Event} (h : ∀ e ∈ notes, e.isNote) (message : String) :
    (notes ++ [Event.status .error message]).filter Event.isLasting = [] := by
  rw [List.filter_append, filter_isLasting_notes h]
  rfl

/-- The status line of a report. -/
theorem line_report (report : Report) : StatusKind.error.line report.message false =
    "[error] " ++ ": ".intercalate (report.contexts ++ report.cause.messages) ++ "\n" := rfl

section Results

variable {w : World} {c : Call} {report : Report} {notes : List Event}

/-- A call whose action fails after some notes leaves these and the report. -/
theorem Call.fails_of_adds (h : (c.run w).Adds (.error report) notes) (hnotes : ∀ e ∈ notes, e.isNote) :
    (c.result w).Fails (c.told w notes) report := by
  have hlasting := filter_isLasting_report hnotes report.message
  constructor
  · simp only [Call.result, h []]
  · simp only [Call.result, h [], List.nil_append]
    rw [← flatMap_output_filter, hlasting, List.flatMap_nil]
  · simp only [Call.result, h [], List.nil_append]
    rw [← filterMap_written?_filter, hlasting, List.filterMap_nil]
  · simp only [Call.result, h [], List.nil_append, Call.told]
    rw [List.map_append, ← List.append_assoc, String.join_append, List.map_singleton, Event.message,
      String.join_cons, String.join_nil, String.append_empty, line_report]
    simp only [String.append_assoc]

/-- The exit code of a call is 1 if one of its steps fails, and only then. -/
theorem Call.exitCode_eq_one_iff :
    (c.result w).exitCode = 1 ↔ ∃ report, c.command.outcome w = .error report := by
  obtain ⟨events, hadds, hnotes⟩ := c.run_ends w
  cases houtcome : c.command.outcome w with
  | ok u =>
    rw [houtcome] at hadds
    have hcode : (c.result w).exitCode = 0 := by rw [Call.result, hadds []]
    constructor
    · intro h
      exact absurd (hcode.symm.trans h) Nat.zero_ne_one
    · rintro ⟨report, hreport⟩
      cases hreport
  | error report =>
    rw [houtcome] at hadds
    have hfails := Call.fails_of_adds hadds (hnotes report houtcome)
    exact ⟨fun _ => ⟨report, rfl⟩, fun _ => hfails.exitCode_eq⟩

/-- Arguments that are no call never make the exit code 1. -/
theorem UsageError.exitCode_ne_one (e : UsageError) : e.result.exitCode ≠ 1 := by
  cases e with
  | help | version => exact Nat.zero_ne_one
  | _ => exact Nat.succ_ne_self 1

end Results

/-- The exit code is 1 if the arguments are a call of which one of the steps fails, and only then. -/
theorem run_exitCode_eq_one_iff {w : World} {arguments : List String} :
    (run w arguments).exitCode = 1 ↔
      ∃ (c : Call) (report : Report), Call.parse arguments = .ok c ∧ c.command.outcome w = .error report := by
  rw [run]
  cases Call.parse arguments with
  | error e =>
    constructor
    · intro h
      exact absurd h e.exitCode_ne_one
    · rintro ⟨c, report, hparse, -⟩
      cases hparse
  | ok c =>
    constructor
    · intro h
      obtain ⟨report, houtcome⟩ := Call.exitCode_eq_one_iff.mp h
      exact ⟨c, report, rfl, houtcome⟩
    · rintro ⟨c', report, hparse, houtcome⟩
      obtain rfl := Except.ok.inj hparse
      exact Call.exitCode_eq_one_iff.mpr ⟨report, houtcome⟩

/-- **A run that fails leaves nothing behind.** Whatever the arguments, the files and the input are, a run with
the exit code 1 is that of a call of which one of the steps fails that come before all output. It prints
nothing and writes no file, and the report of that step is its last message and the only one of an error. -/
theorem failing_run_leaves_nothing {w : World} {arguments : List String}
    (h : (run w arguments).exitCode = 1) :
    ∃ (c : Call) (report : Report) (notes : List Event),
      Call.parse arguments = .ok c ∧ c.command.outcome w = .error report ∧
      (c.run w).Adds (.error report) notes ∧ (∀ e ∈ notes, e.isNote) ∧
      (run w arguments).Fails (c.told w notes) report := by
  obtain ⟨c, report, hparse, houtcome⟩ := run_exitCode_eq_one_iff.mp h
  obtain ⟨notes, hadds, hnotes⟩ := c.run_ends w
  rw [houtcome] at hadds
  have hall := hnotes report houtcome
  refine ⟨c, report, notes, hparse, houtcome, hadds, hall, ?_⟩
  rw [run, hparse]
  exact Call.fails_of_adds hadds hall

/-- One such run: the record can be read, and its one pattern cannot be compiled. -/
theorem failing_run_leaves_nothing_rejected :
    let w : World := {
      read := fun _ => .error .missing
      writeFault? := fun _ => none
      input := [1, 1, 97, 1, 1, 40, 1, 0]
      setting? := fun _ => none }
    let arguments := ["decode", "--format", "bin"]
    (run w arguments).exitCode = 1 ∧
      ∃ (c : Call) (report : Report) (notes : List Event), c.command = .decode none .binary ∧
        report.contexts = ["Rejected rule record"] ∧ (∀ e ∈ notes, e.isNote) ∧
        (run w arguments).Fails (c.told w notes) report := by
  intro w arguments
  have hexit : (run w arguments).exitCode = 1 := by decide +kernel
  obtain ⟨c, report, notes, hparse, houtcome, -, hnotes, hfails⟩ := failing_run_leaves_nothing hexit
  have hcall : Call.parse arguments = .ok ⟨.decode none .binary, false, false⟩ := rfl
  obtain rfl := Except.ok.inj (hparse.symm.trans hcall)
  have hcontexts : (Command.outcome w (.decode none .binary)).mapError Report.contexts =
      .error ["Rejected rule record"] := by decide +kernel
  rw [houtcome] at hcontexts
  exact ⟨hexit, _, report, notes, rfl, Except.error.inj hcontexts, hnotes, hfails⟩

end Fieldwise.Cli
