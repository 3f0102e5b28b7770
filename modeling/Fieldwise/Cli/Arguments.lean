import Fieldwise.Record.Format

/-!
# Arguments

`Arguments.parse` reads the arguments of a call as a `Call`: a command with its options, and how much
of the log is shown. Options have long names, and most have short ones. Short names can be written
together, and the value of an option can follow its name at once or as the next argument.
-/

namespace Fieldwise.Cli

/-! ### Calls -/

/-- A command with its options. -/
inductive Command where
  | apply (rules : String) (values : Option String) (fields : List (String × String))
      (report json : Bool)
  | check (rules : String)
  | encode (rules : String) (format : RecordFormat) (output : Option String)
  | decode (input : Option String) (format : RecordFormat)
  deriving BEq, DecidableEq, Repr

/-- A call of the program. -/
structure Call where
  command : Command
  quiet : Bool
  debug : Bool
  deriving BEq, DecidableEq, Repr

/-- The names of the commands. -/
inductive CommandName where
  | apply
  | check
  | encode
  | decode
  deriving BEq, DecidableEq, Repr

/-- The command of a name. -/
def CommandName.ofString? : String → Option CommandName
  | "apply" => some .apply
  | "check" => some .check
  | "encode" => some .encode
  | "decode" => some .decode
  | _ => none

/-! ### Options -/

/-- The options of all commands. -/
inductive OptionName where
  | quiet
  | debug
  | help
  | version
  | rules
  | values
  | field
  | report
  | json
  | format
  | output
  | input
  deriving BEq, ReflBEq, LawfulBEq, DecidableEq, Repr

namespace OptionName

/-- The long name. -/
def long : OptionName → String
  | quiet => "quiet"
  | debug => "debug"
  | help => "help"
  | version => "version"
  | rules => "rules"
  | values => "values"
  | field => "field"
  | report => "report"
  | json => "json"
  | format => "format"
  | output => "output"
  | input => "input"

/-- The short name. -/
def short? : OptionName → Option Char
  | quiet => some 'q'
  | debug => some 'd'
  | help => some 'h'
  | version => some 'V'
  | rules => some 'r'
  | field => some 'f'
  | output => some 'o'
  | input => some 'i'
  | values | report | json | format => none

/-- What the value of the option is called, if it has one. -/
def placeholder? : OptionName → Option String
  | rules | values | output | input => some "FILE"
  | field => some "ID=VALUE"
  | format => some "FORMAT"
  | quiet | debug | help | version | report | json => none

/-- Whether the option has a value. -/
def hasValue (o : OptionName) : Bool := o.placeholder?.isSome

/-- The option as messages name it. -/
def describe (o : OptionName) : String :=
  "--" ++ o.long ++ o.placeholder?.elim "" fun p => " <" ++ p ++ ">"

/-- Whether the option can be given more than once. -/
def isRepeatable (o : OptionName) : Bool := o == field

end OptionName

/-- The options that can stand before the command. -/
def outerOptions : List OptionName := [.quiet, .debug, .help, .version]

/-- The options of a command. -/
def CommandName.options : CommandName → List OptionName
  | .apply => [.rules, .values, .field, .report, .json, .quiet, .debug, .help]
  | .check => [.rules, .quiet, .debug, .help]
  | .encode => [.rules, .format, .output, .quiet, .debug, .help]
  | .decode => [.input, .format, .quiet, .debug, .help]

/-- The options that a command cannot do without. -/
def CommandName.required : CommandName → List OptionName
  | .apply | .check | .encode => [.rules]
  | .decode => []

/-! ### What can be wrong -/

/-- Why arguments are no call of a command. Help and the version are asked for in the same way. -/
inductive UsageError where
  | unknownArgument (argument : String)
  | unknownCommand (name : String)
  | missingCommand
  | nothingGiven
  | missingOption
  | missingValue (option : OptionName)
  | badFormat (value : String)
  | badAssignment (value : String)
  | repeated (option : OptionName)
  | unwantedValue (option : OptionName) (value : String)
  | help
  | version
  deriving BEq, DecidableEq, Repr

/-- What the program is for. -/
def purpose : String := "Compose text from field values with ordered regex substitution rules"

/-- What is wrong, in words. -/
def UsageError.message : UsageError → String
  | .unknownArgument argument => "error: unexpected argument '" ++ argument ++ "' found"
  | .unknownCommand name => "error: unrecognized subcommand '" ++ name ++ "'"
  | .missingCommand => "error: 'fieldsub' requires a subcommand but one was not provided"
  | .nothingGiven => purpose
  | .missingOption => "error: the following required arguments were not provided:"
  | .missingValue option =>
    "error: a value is required for '" ++ option.describe ++ "' but none was supplied"
  | .badFormat value =>
    "error: invalid value '" ++ value ++ "' for '" ++ OptionName.format.describe ++ "'"
  | .badAssignment value =>
    "error: invalid value '" ++ value ++ "' for '" ++ OptionName.field.describe ++
      "': expected ID=VALUE, got '" ++ value ++ "'"
  | .repeated option =>
    "error: the argument '" ++ option.describe ++ "' cannot be used multiple times"
  | .unwantedValue option value =>
    "error: unexpected value '" ++ value ++ "' for '" ++ option.describe ++
      "' found; no more were expected"
  | .help => purpose
  | .version => "fieldsub 0.1.0"

/-! ### Values -/

/-- The format of a name. -/
def formatOfName? : String → Option RecordFormat
  | "json" => some .json
  | "yaml" => some .yaml
  | "bin" => some .binary
  | _ => none

/-- Splits an assignment at its first equals sign, before which a name must stand. -/
def splitAssignment? (text : String) : Option (String × String) :=
  let name := text.toList.takeWhile (· != '=')
  match text.toList.drop name.length with
  | [] => none
  | _ :: value => if name.isEmpty then none else some (String.ofList name, String.ofList value)

/-- Refuses a value that an option cannot have. -/
def checkValue (option : OptionName) (value : String) : Except UsageError Unit :=
  match option with
  | .field => if (splitAssignment? value).isSome then .ok () else .error (.badAssignment value)
  | .format =>
    if value.isEmpty then .error (.missingValue option)
    else if (formatOfName? value).isSome then .ok ()
    else .error (.badFormat value)
  | _ => if value.isEmpty then .error (.missingValue option) else .ok ()

/-! ### Reading -/

/-- What has been read: the options with their values, in their order, and one more option whose value
has not been looked at or is still to come. -/
structure Reader where
  given : List (OptionName × String)
  pending : Option (OptionName × Option String)

namespace Reader

/-- Whether an option has been given. -/
def has (r : Reader) (option : OptionName) : Bool := r.given.any (·.1 == option)

/-- The value of an option. -/
def value? (r : Reader) (option : OptionName) : Option String := r.given.lookup option

/-- Adds an option. -/
def add (r : Reader) (option : OptionName) (value : String) : Except UsageError Reader :=
  if r.has option && !option.isRepeatable then .error (.repeated option)
  else .ok { r with given := r.given ++ [(option, value)] }

/-- Looks at the value of the last option. -/
def settle (r : Reader) : Except UsageError Reader :=
  match r.pending with
  | none => .ok r
  | some (option, none) => .error (.missingValue option)
  | some (option, some value) => do
    let r ← Reader.add { r with pending := none } option value
    checkValue option value
    .ok r

/-- Adds an option without a value. -/
def addFlag (r : Reader) (option : OptionName) : Except UsageError Reader := do
  let r ← r.settle
  match option with
  | .help => .error .help
  | .version => .error .version
  | _ => r.add option ""

/-- Adds an option with its value, if it is there already. -/
def addOption (r : Reader) (option : OptionName) (value : Option String) :
    Except UsageError Reader := do
  let r ← r.settle
  match value with
  | some value => Reader.settle { r with pending := some (option, some value) }
  | none => .ok { r with pending := some (option, none) }

/-- Reads an argument with a long name. -/
def readLong (options : List OptionName) (r : Reader) (text : List Char) :
    Except UsageError Reader :=
  let name := String.ofList (text.takeWhile (· != '='))
  let value := (text.drop name.length).tail?.map String.ofList
  match options.find? (·.long == name) with
  | none => .error (.unknownArgument ("--" ++ name))
  | some option =>
    if option.hasValue then r.addOption option value
    else
      match value with
      | some value => .error (.unwantedValue option value)
      | none => r.addFlag option

/-- Reads an argument of short names. What follows the name of an option that has a value is that
value. -/
def readShort (options : List OptionName) (r : Reader) : List Char → Except UsageError Reader
  | [] => .ok r
  | c :: rest =>
    match options.find? (·.short? == some c) with
    | none => .error (.unknownArgument (String.ofList ['-', c]))
    | some option =>
      if option.hasValue then
        let value := match rest with
          | [] => none
          | '=' :: value => some (String.ofList value)
          | value => some (String.ofList value)
        r.addOption option value
      else do
        let r ← r.addFlag option
        readShort options r rest

/-- Whether the value of the last option is still to come. -/
def awaitsValue (r : Reader) : Bool := r.pending.any (·.2.isNone)

/-- Takes an argument for the value of the last option. -/
def takeValue (r : Reader) (value : String) : Reader :=
  { r with pending := r.pending.map fun (option, _) => (option, some value) }

end Reader

/-- Why an argument that is neither an option nor the value of one is refused. Before the command it
can only be one. -/
def strayArgument (inCommand escaped : Bool) (argument : String) : UsageError :=
  let isCommand := argument == "help" || (CommandName.ofString? argument).isSome
  if inCommand || (escaped && isCommand) then .unknownArgument argument else .unknownCommand argument

/-- Reads arguments up to the command, which is left to be read, or up to the end. -/
def readArguments (options : List OptionName) (inCommand : Bool) (r : Reader) :
    List String → Except UsageError (Reader × List String)
  | [] => do return (← r.settle, [])
  | argument :: rest =>
    let isCommand := argument == "help" || (CommandName.ofString? argument).isSome
    if !inCommand && !r.awaitsValue && isCommand then .ok (r, argument :: rest)
    else if argument == "--" then
      match rest with
      | [] => do return (← r.settle, [])
      | stray :: _ => .error (strayArgument inCommand true stray)
    else
      match argument.toList with
      | '-' :: '-' :: text => do readArguments options inCommand (← r.readLong options text) rest
      | '-' :: c :: text => do
        readArguments options inCommand (← r.readShort options (c :: text)) rest
      | _ =>
        if r.awaitsValue then readArguments options inCommand (r.takeValue argument) rest
        else .error (strayArgument inCommand false argument)

/-- The format that was asked for. -/
def Reader.format (r : Reader) : RecordFormat := ((r.value? .format).bind formatOfName?).getD .json

/-- The assignments that were given. -/
def Reader.assignments (r : Reader) : List (String × String) :=
  (r.given.filter (·.1 == .field)).filterMap fun (_, value) => splitAssignment? value

/-- The command with the options that were given. -/
def Reader.command (r : Reader) : CommandName → Command
  | .apply =>
    .apply ((r.value? .rules).getD "") (r.value? .values) r.assignments (r.has .report) (r.has .json)
  | .check => .check ((r.value? .rules).getD "")
  | .encode => .encode ((r.value? .rules).getD "") r.format (r.value? .output)
  | .decode => .decode (r.value? .input) r.format

/-- Why help is not given: it is asked for a command that is none. -/
def readHelp : List String → UsageError
  | [] => .help
  | name :: rest =>
    if name == "help" || (CommandName.ofString? name).isSome then
      match rest with
      | [] => .help
      | stray :: _ => .unknownCommand stray
    else .unknownCommand name

/-- Reads the arguments of a call. -/
def Call.parse (arguments : List String) : Except UsageError Call := do
  let (outer, rest) ← readArguments outerOptions false ⟨[], none⟩ arguments
  match rest with
  | [] => .error (if outer.given.isEmpty then .nothingGiven else .missingCommand)
  | name :: rest =>
    match CommandName.ofString? name with
    | none => .error (readHelp rest)
    | some name => do
      let (inner, _) ← readArguments name.options true ⟨[], none⟩ rest
      if name.required.all inner.has then
        .ok { command := inner.command name
              quiet := outer.has .quiet || inner.has .quiet
              debug := outer.has .debug || inner.has .debug }
      else .error .missingOption

end Fieldwise.Cli
