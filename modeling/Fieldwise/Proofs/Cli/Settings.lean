import Fieldwise.Proofs.Cli.Apply
import Fieldwise.Proofs.Cli.Assignments

/-!
# What the settings of the log decide

How much a run tells, and whether it may tell field values, is said by two flags and by the environment.
Nothing else depends on them (`settings_decide_messages`): whatever the command is, two runs of it with the
same files and the same input have the same exit code, print the same and write the same files, and if they
fail it is for the same reason.

The two runs are gone through side by side. `Action.Agrees` says of two actions that they come to the same
result and leave the same behind. What they tell on the way does not count, so that actions that tell no more
than notes agree whenever their results do (`Action.Prepares.agrees`), and agreement is kept as actions are
put one after another (`Action.Agrees.bind`).
-/

namespace Fieldwise.Cli

/-! ### Actions side by side -/

namespace Action

variable {α β : Type} {action action' : Action α} {next next' : α → Action β} {result : Except Report α}
  {left : List Event}

/-- Whatever has happened before, the actions come to the same result, and the same lasts of what they do. -/
def Agrees (action action' : Action α) : Prop :=
  ∃ (result : Except Report α) (left : List Event), action.Yields result left ∧ action'.Yields result left

theorem Yields.agrees (h : action.Yields result left) (h' : action'.Yields result left) :
    action.Agrees action' := ⟨result, left, h, h'⟩

/-- An action that only prepares a result leaves nothing behind. -/
theorem Prepares.yields (h : action.Prepares result) : action.Yields result [] := by
  obtain ⟨notes, hadds, hnotes⟩ := h
  exact ⟨notes, filter_isLasting_notes hnotes, hadds⟩

/-- Actions that tell notes agree if they come to the same result, whatever the notes are. -/
theorem Prepares.agrees (h : action.Prepares result) (h' : action'.Prepares result) :
    action.Agrees action' := h.yields.agrees h'.yields

theorem Ends.exists_yields (h : action.Ends result) : ∃ left, action.Yields result left := by
  obtain ⟨events, hadds, -⟩ := h
  exact ⟨_, events, rfl, hadds⟩

/-- An action of which it is known what it comes to agrees with itself. -/
theorem Ends.agrees_self (h : action.Ends result) : action.Agrees action := by
  obtain ⟨left, hyields⟩ := h.exists_yields
  exact hyields.agrees hyields

/-- Actions agree if their parts do. -/
theorem Agrees.bind (h : action.Agrees action') (h' : ∀ x, (next x).Agrees (next' x)) :
    (action >>= next).Agrees (action' >>= next') := by
  obtain ⟨result, left, hfirst, hfirst'⟩ := h
  cases result with
  | error report => exact hfirst.bind_error.agrees hfirst'.bind_error
  | ok x =>
    obtain ⟨r, rest, hnext, hnext'⟩ := h' x
    exact (hfirst.bind hnext).agrees (hfirst'.bind hnext')

/-- Actions that begin in the same way agree if what follows does. -/
theorem Ends.bind_agrees (h : action.Ends result) (h' : ∀ x, (next x).Agrees (next' x)) :
    (action >>= next).Agrees (action >>= next') := h.agrees_self.bind h'

end Action

/-! ### Commands side by side -/

/-- A world with other settings. -/
def World.withSettings (w : World) (setting? : String → Option String) : World := { w with setting? }

section Commands

variable (w : World) (settings settings' : String → Option String)

/-- Whether values may be disclosed has no say in what applying comes to. -/
theorem appliedRules_prepares (rules : RuleSet) (values : Values) :
    (Action.attempt <| Attempt.mapError
      (fun e => (Report.ofError e).within "Failed to apply field substitutions")
      (rules.apply w.disclosure values.finder)).Prepares (RuleFile.applied rules values) := by
  rw [← appliedRules_eq w rules values]
  exact Action.Prepares.attempt _

theorem runApply_agrees (rules : String) (values : Option String) (fields : List (String × String))
    (report json : Bool) :
    (runApply (w.withSettings settings) rules values fields report json).Agrees
      (runApply (w.withSettings settings') rules values fields report json) := by
  refine (Action.Prepares.log _ _ _).ends.bind_agrees fun _ => ?_
  refine (loadRules_prepares w rules).ends.bind_agrees fun ⟨_, rules⟩ => ?_
  refine (Action.Prepares.ofExcept _).ends.bind_agrees fun values => ?_
  refine (Action.Prepares.log _ _ _).ends.bind_agrees fun _ => ?_
  -- This is the only step at which the two runs differ.
  refine ((appliedRules_prepares _ rules values).agrees (appliedRules_prepares _ rules values)).bind
    fun outcome => ?_
  refine (Action.Ends.emit _).bind_agrees fun _ => ?_
  split
  · exact ((Action.Prepares.forM_status (by decide) _ _).then_prepares
      (Action.Prepares.log _ _ _)).ends.agrees_self
  · exact (Action.Prepares.log _ _ _).ends.agrees_self

theorem runCheck_agrees (rules : String) (quiet quiet' : Bool) :
    (runCheck (w.withSettings settings) rules quiet).Agrees
      (runCheck (w.withSettings settings') rules quiet') :=
  (runCheck_prepares (w.withSettings settings) rules quiet).agrees
    (runCheck_prepares (w.withSettings settings') rules quiet')

theorem runEncode_agrees (rules : String) (format : RecordFormat) (output : Option String)
    (quiet quiet' : Bool) :
    (runEncode (w.withSettings settings) rules format output quiet).Agrees
      (runEncode (w.withSettings settings') rules format output quiet') := by
  refine (loadRules_prepares w rules).ends.bind_agrees fun ⟨_, rules⟩ => ?_
  refine (Action.Prepares.log _ _ _).ends.bind_agrees fun _ => ?_
  cases output with
  | none => exact (Action.Ends.emit _).agrees_self
  | some path =>
    obtain ⟨left, hwrite⟩ := (writeFile_ends w path (rules.toRecord.encode format)).exists_yields
    -- Whether or not it is told before, writing the file comes to the same.
    have hyields : ∀ quiet : Bool, Action.Yields
        (do
          if !quiet then Action.status .info ("Writing record to file: " ++ path)
          writeFile w path (rules.toRecord.encode format))
        (w.writable path) left := by
      intro quiet
      cases quiet with
      | true => exact hwrite
      | false => exact (Action.Yields.status _ _).bind hwrite
    exact (hyields quiet).agrees (hyields quiet')

theorem runDecode_agrees (input : Option String) (format : RecordFormat) :
    (runDecode (w.withSettings settings) input format).Agrees
      (runDecode (w.withSettings settings') input format) :=
  (runDecode_ends w input format).agrees_self

/-- Runs of a command agree, whatever is to be told. -/
theorem Call.run_agrees {c c' : Call} (h : c.command = c'.command) :
    (c.run (w.withSettings settings)).Agrees (c'.run (w.withSettings settings')) := by
  obtain ⟨command, quiet, debug⟩ := c
  obtain ⟨command', quiet', debug'⟩ := c'
  obtain rfl : command = command' := h
  cases command with
  | apply rules values fields report json =>
    exact runApply_agrees w settings settings' rules values fields report json
  | check rules => exact runCheck_agrees w settings settings' rules quiet quiet'
  | encode rules format output =>
    exact runEncode_agrees w settings settings' rules format output quiet quiet'
  | decode input format => exact runDecode_agrees w settings settings' input format

end Commands

/-! ### Runs side by side -/

/-- The runs have nothing but their messages to tell them apart. If they fail, the report is the same, and it
is the last of the messages in both; if the arguments are refused, it is in the same words. -/
structure Result.SameButMessages (r r' : Result) : Prop where
  exitCode_eq : r.exitCode = r'.exitCode
  output_eq : r.output = r'.output
  written_eq : r.written = r'.written
  report : r.exitCode = 1 →
    ∃ (report : Report) (earlier earlier' : String), r.Fails earlier report ∧ r'.Fails earlier' report
  refusal : 1 < r.exitCode → r.messages = r'.messages

section Results

variable {w w' : World} {c c' : Call}

/-- Calls whose actions agree have nothing but their messages to tell them apart. -/
theorem Call.result_sameButMessages (h : (c.run w).Agrees (c'.run w')) :
    (c.result w).SameButMessages (c'.result w') := by
  obtain ⟨result, left, hyields, hyields'⟩ := h
  cases result with
  | ok done =>
    have hsucceeds := Call.succeeds_of_yields hyields
    have hsucceeds' := Call.succeeds_of_yields hyields'
    have hzero := hsucceeds.exitCode_eq
    exact {
      exitCode_eq := hzero.trans hsucceeds'.exitCode_eq.symm
      output_eq := hsucceeds.output_eq.trans hsucceeds'.output_eq.symm
      written_eq := hsucceeds.written_eq.trans hsucceeds'.written_eq.symm
      report := fun hone => absurd (hzero.symm.trans hone) Nat.zero_ne_one
      refusal := fun hlt => absurd (hzero ▸ hlt) (Nat.not_lt_zero 1) }
  | error report =>
    obtain ⟨left', hends⟩ := (c.run_ends w).exists_yields
    obtain ⟨left'', hends'⟩ := (c'.run_ends w').exists_yields
    obtain ⟨notes, -, hfails⟩ := Call.fails_of_outcome (hends.unique hyields)
    obtain ⟨notes', -, hfails'⟩ := Call.fails_of_outcome (hends'.unique hyields')
    have hone := hfails.exitCode_eq
    exact {
      exitCode_eq := hone.trans hfails'.exitCode_eq.symm
      output_eq := hfails.output_eq.trans hfails'.output_eq.symm
      written_eq := hfails.written_eq.trans hfails'.written_eq.symm
      report := fun _ => ⟨report, _, _, hfails, hfails'⟩
      refusal := fun hlt => absurd (hone ▸ hlt) (Nat.lt_irrefl 1) }

/-- Arguments that are no call are refused in the same words. -/
theorem UsageError.result_sameButMessages (e : UsageError) : e.result.SameButMessages e.result where
  exitCode_eq := rfl
  output_eq := rfl
  written_eq := rfl
  report := fun hone => absurd hone e.exitCode_ne_one
  refusal := fun _ => rfl

end Results

/-! ### Flags -/

/-- Flags as arguments. -/
def flagArguments (flags : List OptionName) : List String := flags.map fun flag => "--" ++ flag.long

/-- The flags that say how much is told. -/
def OptionName.isLogFlag (o : OptionName) : Bool := o == .quiet || o == .debug

section Flags

variable {r : Reader} {flag : OptionName} {flags : List OptionName} {name : String}

/-- A flag before the command is taken off. -/
theorem readArguments_flag (hr : r.pending = none) (hflag : flag.isLogFlag) (hhas : r.has flag = false)
    (rest : List String) :
    readArguments outerOptions false r (("--" ++ flag.long) :: rest) =
      readArguments outerOptions false { r with given := r.given ++ [(flag, "")] } rest := by
  have hadd : r.add flag "" = .ok { r with given := r.given ++ [(flag, "")] } :=
    Reader.add_of_not_has (.inl hhas)
  rw [OptionName.isLogFlag, Bool.or_eq_true, beq_iff_eq, beq_iff_eq] at hflag
  obtain ⟨given, pending⟩ := r
  cases hr
  have hread : Reader.readLong outerOptions ⟨given, none⟩ flag.long.toList = Reader.add ⟨given, none⟩ flag "" := by
    rcases hflag with rfl | rfl <;> rfl
  have htext : ("--" ++ flag.long).toList = '-' :: '-' :: flag.long.toList := by simp
  have hother : ("--" ++ flag.long == "help" || (CommandName.ofString? ("--" ++ flag.long)).isSome) = false ∧
      ("--" ++ flag.long == "--") = false := by
    rcases hflag with rfl | rfl <;> decide
  conv_lhs => unfold readArguments
  simp only [hother.1, hother.2, htext, hread, hadd, Bool.and_false, Bool.false_eq_true, if_false]
  rfl

/-- Flags before the command are taken off, and the command is left. -/
theorem readArguments_flags (hname : (CommandName.ofString? name).isSome) (rest : List String)
    (hflags : ∀ flag ∈ flags, flag.isLogFlag) (hnodup : flags.Nodup) (hr : r.pending = none)
    (hhas : ∀ flag ∈ flags, r.has flag = false) :
    readArguments outerOptions false r (flagArguments flags ++ name :: rest) =
      .ok ({ r with given := r.given ++ flags.map fun flag => (flag, "") }, name :: rest) := by
  induction flags generalizing r with
  | nil =>
    obtain ⟨given, pending⟩ := r
    cases hr
    have hcommand : (name == "help" || (CommandName.ofString? name).isSome) = true := by
      rw [hname, Bool.or_true]
    rw [flagArguments, List.map_nil, List.nil_append, List.map_nil, List.append_nil, readArguments.eq_def]
    simp only [hcommand, Reader.awaitsValue, Option.any_none, Bool.not_false, Bool.and_true, if_true]
  | cons flag flags ih =>
    obtain ⟨hflag, hflags⟩ := List.forall_mem_cons.mp hflags
    obtain ⟨hnew, hnodup⟩ := List.nodup_cons.mp hnodup
    obtain ⟨hfirst, hhas⟩ := List.forall_mem_cons.mp hhas
    refine (readArguments_flag hr hflag hfirst _).trans ?_
    refine (ih (r := { r with given := r.given ++ [(flag, "")] }) hflags hnodup hr
      fun other hother => ?_).trans ?_
    · have hne : flag ≠ other := by
        rintro rfl
        exact hnew hother
      have hnot := hhas other hother
      rw [Reader.has] at hnot ⊢
      rw [List.any_append, hnot, List.any_cons, List.any_nil, Bool.or_false, Bool.false_or,
        beq_eq_false_iff_ne]
      exact hne
    · rw [List.append_assoc]
      rfl

/-- Flags before the command are the flags of the call, and the command is the same as without them. -/
theorem parse_flags (hname : (CommandName.ofString? name).isSome) (rest : List String)
    (hflags : ∀ flag ∈ flags, flag.isLogFlag) (hnodup : flags.Nodup) :
    Call.parse (flagArguments flags ++ name :: rest) =
      (Call.parse (name :: rest)).map fun c =>
        { c with quiet := flags.contains .quiet || c.quiet, debug := flags.contains .debug || c.debug } := by
  have hread : ∀ flags : List OptionName, (∀ flag ∈ flags, flag.isLogFlag) → flags.Nodup →
      readArguments outerOptions false ⟨[], none⟩ (flagArguments flags ++ name :: rest) =
        .ok (⟨flags.map fun flag => (flag, ""), none⟩, name :: rest) :=
    fun flags hflags hnodup => readArguments_flags hname rest hflags hnodup rfl fun _ _ => rfl
  have hgiven : ∀ option : OptionName,
      Reader.has ⟨flags.map fun flag => (flag, ""), none⟩ option = flags.contains option := by
    intro option
    rw [Reader.has, List.any_map, List.contains_eq_any_beq]
    simp only [Function.comp_def, BEq.comm]
  obtain ⟨command, hcommand⟩ := Option.isSome_iff_exists.mp hname
  have hplain : readArguments outerOptions false ⟨[], none⟩ (name :: rest) = .ok (⟨[], none⟩, name :: rest) :=
    hread [] (List.forall_mem_nil _) List.nodup_nil
  rw [parse_of_readArguments (hread flags hflags hnodup) hcommand, parse_of_readArguments hplain hcommand]
  cases readArguments command.options true ⟨[], none⟩ rest with
  | error e => rfl
  | ok read =>
    simp only [hgiven]
    by_cases hrequired : command.required.all read.1.has = true
    · simp only [bind, Except.bind, if_pos hrequired]
      rfl
    · simp only [bind, Except.bind, if_neg hrequired]
      rfl

/-- Flags before the command have no say in what the command is. -/
theorem command_of_parse_flags (hname : (CommandName.ofString? name).isSome) (rest : List String)
    (hflags : ∀ flag ∈ flags, flag.isLogFlag) (hnodup : flags.Nodup) :
    (Call.parse (flagArguments flags ++ name :: rest)).map Call.command =
      (Call.parse (name :: rest)).map Call.command := by
  rw [parse_flags hname rest hflags hnodup]
  cases Call.parse (name :: rest) <;> rfl

end Flags

/-- Whatever the settings are, runs with the same command have nothing but their messages to tell them
apart. -/
theorem run_sameButMessages (w : World) (settings settings' : String → Option String)
    {arguments arguments' : List String}
    (h : (Call.parse arguments).map Call.command = (Call.parse arguments').map Call.command) :
    (run (w.withSettings settings) arguments).SameButMessages
      (run (w.withSettings settings') arguments') := by
  rw [run, run]
  cases hparse : Call.parse arguments with
  | error e =>
    cases hparse' : Call.parse arguments' with
    | error e' =>
      rw [hparse, hparse'] at h
      obtain rfl : e = e' := Except.error.inj h
      exact e.result_sameButMessages
    | ok c' => rw [hparse, hparse'] at h; cases h
  | ok c =>
    cases hparse' : Call.parse arguments' with
    | error e' => rw [hparse, hparse'] at h; cases h
    | ok c' =>
      rw [hparse, hparse'] at h
      exact Call.result_sameButMessages (Call.run_agrees w settings settings' (Except.ok.inj h))

/-- **Settings decide on messages only.** Whatever the files and the input are, take two runs with any settings
of the environment. If the command and its options are the same, the runs have the same exit code, print the
same and write the same files, and if they fail the report at the end of their messages is the same. This is so
for every command and any two choices of the flags; for any two lists of arguments that are read as the same
command, or are refused; and for flags that are written before the command. -/
theorem settings_decide_messages (w : World) (settings settings' : String → Option String) :
    (∀ (command : Command) (quiet debug quiet' debug' : Bool),
      (Call.result (w.withSettings settings) ⟨command, quiet, debug⟩).SameButMessages
        (Call.result (w.withSettings settings') ⟨command, quiet', debug'⟩)) ∧
    (∀ arguments arguments' : List String,
      (Call.parse arguments).map Call.command = (Call.parse arguments').map Call.command →
        (run (w.withSettings settings) arguments).SameButMessages
          (run (w.withSettings settings') arguments')) ∧
    ∀ (name : String) (rest : List String) (flags flags' : List OptionName),
      (CommandName.ofString? name).isSome → (∀ flag ∈ flags ++ flags', flag.isLogFlag) → flags.Nodup →
        flags'.Nodup →
          (run (w.withSettings settings) (flagArguments flags ++ name :: rest)).SameButMessages
            (run (w.withSettings settings') (flagArguments flags' ++ name :: rest)) := by
  refine ⟨fun command quiet debug quiet' debug' => ?_, fun arguments arguments' h => ?_,
    fun name rest flags flags' hname hflags hnodup hnodup' => ?_⟩
  · exact Call.result_sameButMessages (Call.run_agrees w settings settings' rfl)
  · exact run_sameButMessages w settings settings' h
  · obtain ⟨hflags, hflags'⟩ := List.forall_mem_append.mp hflags
    refine run_sameButMessages w settings settings' ?_
    rw [command_of_parse_flags hname rest hflags hnodup, command_of_parse_flags hname rest hflags' hnodup']

/-- One record that is rejected, with nothing told of it, with everything told, and with flags that contradict
each other. -/
theorem settings_decide_messages_rejected :
    let w : World := {
      read := fun _ => .error .missing
      writeFault? := fun _ => none
      input := [1, 1, 97, 1, 1, 40, 1, 0]
      setting? := fun _ => none }
    let loud : String → Option String := fun name => if name = "RUST_LOG" then some "trace" else some "true"
    let quiet := run w ["-q", "decode", "--format=bin"]
    let debug := run (w.withSettings loud) ["decode", "--format", "bin", "-d"]
    quiet.exitCode = 1 ∧ quiet.SameButMessages debug ∧
      (run w ["--quiet", "--debug", "decode", "--format", "bin"]).SameButMessages
        (run (w.withSettings loud) ["decode", "--format", "bin"]) := by
  intro w loud quiet debug
  have hsame := settings_decide_messages w (fun _ => none) loud
  have hexit : quiet.exitCode = 1 := by decide +kernel
  refine ⟨hexit, hsame.2.1 ["-q", "decode", "--format=bin"] ["decode", "--format", "bin", "-d"] rfl, ?_⟩
  exact hsame.2.2 "decode" ["--format", "bin"] [.quiet, .debug] [] rfl (by decide) (by decide) (by decide)

end Fieldwise.Cli
