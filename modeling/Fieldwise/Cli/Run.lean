import Fieldwise.Cli.Arguments
import Fieldwise.Cli.LogFilter
import Fieldwise.Cli.Status
import Fieldwise.OutcomeText
import Fieldwise.RuleFile
import Fieldwise.Values

/-!
# Running commands

A run of the program is a function of its arguments and of the `World` around it: files, input and
settings. It yields what is to be printed and written, and whether it went well. A command says what
happens in the order in which it happens; which of its log records are shown is decided afterwards.
-/

namespace Fieldwise.Cli

/-- What a run can learn from outside. -/
structure World where
  /-- The content of files. -/
  read : FileReader
  /-- Why a file cannot be written, if it cannot. -/
  writeFault? : String → Option FileError
  /-- The input of the program. -/
  input : List UInt8
  /-- The settings of the environment, by name. -/
  setting? : String → Option String
  /-- Why the input cannot be read to its end, if it cannot. -/
  inputFault? : Option FileError := none

/-- Something that happens in a run. -/
inductive Event where
  | logged (entry : LogEntry)
  | status (kind : StatusKind) (message : String)
  | printed (bytes : List UInt8)
  | wrote (path : String) (bytes : List UInt8)
  deriving BEq, DecidableEq, Repr

/-- What happens, the first first, and what comes of it. -/
abbrev Action := ExceptT Report (StateM (List Event))

namespace Action

/-- Something happens. -/
def emit (e : Event) : Action Unit := modify (· ++ [e])

/-- Logs from the command line. -/
def log (level : LogLevel) (target message : String) : Action Unit :=
  emit (.logged ⟨level, "fieldsub::commands::" ++ target, message⟩)

/-- Shows a status line. -/
def status (kind : StatusKind) (message : String) : Action Unit := emit (.status kind message)

/-- Prints a text. -/
def print (text : String) : Action Unit := emit (.printed (Utf8.encodeString text))

/-- Makes an attempt of the library. -/
def attempt {α : Type} (a : Attempt Report α) : Action α := do
  let (result, log) := a.run'
  modify (· ++ log.map .logged)
  MonadExcept.ofExcept result

end Action

/-! ### Commands -/

/-- Loads a rule file and builds its rule set. -/
def loadRules (w : World) (path : String) : Action (RuleFile × RuleSet) := do
  let file ← Action.attempt (RuleFile.load w.read path)
  let rules ← Action.attempt file.build
  return (file, rules)

/-- Whether the log may hold field values. -/
def World.disclosure (w : World) : Disclosure :=
  match w.setting? "FIELDSUB_ALLOW_DEBUG_PII" with
  | some value => if value.toList.map Char.toLower == "true".toList then .allowed else .redacted
  | none => .redacted

/-- Applies the rules to field values and prints the text that they make. -/
def runApply (w : World) (rules : String) (values : Option String)
    (fields : List (String × String)) (report json : Bool) : Action Unit := do
  Action.log .info "apply" "Starting apply operation."
  let (_, rules) ← loadRules w rules
  let values ← MonadExcept.ofExcept (Values.collect w.read values fields)
  Action.log .debug "apply" ("Collected " ++ toString values.length ++ " field value(s).")
  let outcome ← Action.attempt <|
    Attempt.mapError
      (fun e => (Report.ofError e).within "Failed to apply field substitutions")
      (rules.apply w.disclosure values.finder)
  Action.print (outcome.write json)
  if report && !json then
    outcome.failures.forM fun f => Action.status .warning f.describe
  Action.log .info "apply" "Apply operation completed."

/-- Builds the rules and shows what is probably not meant. -/
def runCheck (w : World) (rules : String) (quiet : Bool) : Action Unit := do
  let (file, rules) ← loadRules w rules
  let warnings ← Action.attempt (liftM file.lint)
  Action.log .info "check"
    ("Checked " ++ toString rules.size ++ " rule(s), " ++ toString warnings.length ++ " warning(s).")
  if !quiet then
    warnings.forM fun message => Action.status .warning message
    Action.status .success
      (toString rules.size ++ " rule(s) built for field(s): " ++
        ", ".intercalate (rules.fields.map (·.text)))

/-- What a run fails with if a file cannot be written. -/
def writeReport (path : String) (e : FileError) : Report :=
  (Report.ofCause (.file e)).within ("Failed to write output file: " ++ path)

/-- Writes a file. -/
def writeFile (w : World) (path : String) (bytes : List UInt8) : Action Unit :=
  match w.writeFault? path with
  | some e => throw (writeReport path e)
  | none => Action.emit (.wrote path bytes)

/-- Writes the record of the rules. -/
def runEncode (w : World) (rules : String) (format : RecordFormat) (output : Option String)
    (quiet : Bool) : Action Unit := do
  let (_, rules) ← loadRules w rules
  let bytes := rules.toRecord.encode format
  Action.log .debug "codec"
    ("Encoded " ++ toString rules.size ++ " rule(s) into " ++ toString bytes.length ++ " byte(s).")
  match output with
  | some path =>
    if !quiet then Action.status .info ("Writing record to file: " ++ path)
    writeFile w path bytes
  | none => Action.emit (.printed bytes)

/-- The input of the program, read to its end. -/
def World.readInput (w : World) : Except FileError (List UInt8) :=
  match w.inputFault? with
  | some e => .error e
  | none => .ok w.input

/-- The bytes of a record, from a file if one is given and from the input if not. -/
def recordBytes (w : World) : Option String → Except Report (List UInt8)
  | some path => (w.read path).mapError fun e =>
      (Report.ofCause (.file e)).within ("Failed to read record file: " ++ path)
  | none => w.readInput.mapError fun e =>
      (Report.ofCause (.file e)).within "Failed to read record from stdin"

/-- Reads a record and prints its rules as a rule file. -/
def runDecode (w : World) (input : Option String) (format : RecordFormat) : Action Unit := do
  let bytes ← MonadExcept.ofExcept (recordBytes w input)
  let rules ← Action.attempt (RuleSet.decode format bytes)
  Action.log .info "codec" ("Decoded and validated " ++ toString rules.size ++ " rule(s).")
  Action.print (RuleFile.ofRuleSet rules).toYaml

/-- Runs a command. -/
def Call.run (w : World) (c : Call) : Action Unit :=
  match c.command with
  | .apply rules values fields report json => runApply w rules values fields report json
  | .check rules => runCheck w rules c.quiet
  | .encode rules format output => runEncode w rules format output c.quiet
  | .decode input format => runDecode w input format

/-! ### Runs -/

/-- The level that a call asks for. -/
def Call.rank? (c : Call) : Option Nat :=
  if c.quiet then some 0 else if c.debug then some LogLevel.debug.rank else none

/-- Which log records a call shows, and what is wrong with the settings. -/
def Call.logFilter (w : World) (c : Call) : LogFilter × List String :=
  let (f, errors) := LogFilter.read ((w.setting? "RUST_LOG").getD "warn")
  (c.rank?.elim f f.withLevel, errors)

/-- What comes of a run: its exit code, its output, its messages and the files that it writes. -/
structure Result where
  exitCode : Nat
  output : List UInt8
  messages : String
  written : List (String × List UInt8)

/-- What an event adds to the messages. They are not taken to go to a terminal, and have no colours. -/
def Event.message (f : LogFilter) : Event → String
  | .logged e => if f.admits e then logLines e else ""
  | .status kind message => kind.line message false
  | _ => ""

/-- What an event adds to the output. -/
def Event.output : Event → List UInt8
  | .printed bytes => bytes
  | _ => []

/-- The file that an event writes. -/
def Event.written? : Event → Option (String × List UInt8)
  | .wrote path bytes => some (path, bytes)
  | _ => none

/-- What comes of a call. -/
def Call.result (w : World) (c : Call) : Result :=
  let (outcome, events) := StateT.run (ExceptT.run (c.run w)) []
  let (filter, errors) := c.logFilter w
  let events := match outcome with
    | .ok () => events
    | .error r => events ++ [Event.status .error r.message]
  { exitCode := match outcome with
      | .ok () => 0
      | .error _ => 1
    output := events.flatMap Event.output
    messages := String.join
      (errors.map (fun e => "warning: " ++ e ++ ", ignoring it\n") ++ events.map (Event.message filter))
    written := events.filterMap Event.written? }

/-- What comes of arguments that are no call. -/
def UsageError.result (e : UsageError) : Result :=
  let line := e.message ++ "\n"
  match e with
  | .help | .version => ⟨0, Utf8.encodeString line, "", []⟩
  | _ => ⟨2, [], line, []⟩

/-- What comes of a run of the program. -/
def run (w : World) (arguments : List String) : Result :=
  match Call.parse arguments with
  | .ok c => c.result w
  | .error e => e.result

end Fieldwise.Cli
