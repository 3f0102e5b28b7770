import Fieldwise.Log
import Fieldwise.Pattern.Basic

/-!
# Choosing log records

Which records are shown is said by directives, such as `warn` or `fieldsub_core::engine=debug`,
between commas. After a slash a pattern may follow that a record's message must match.
-/

namespace Fieldwise.Cli

/-- A directive: the least important level that is shown, for all parts of the program or for those
whose names begin in a certain way. No level at all is 0. -/
structure LogDirective where
  target : Option String
  rank : Nat
  deriving BEq, DecidableEq, Repr

/-- What is shown. -/
structure LogFilter where
  directives : List LogDirective
  pattern : Option Pattern

/-- The rank of the level of a name, in letters of whatever case. -/
def rankOfName? (name : String) : Option Nat :=
  ["off", "error", "warn", "info", "debug", "trace"].findIdx?
    (· == String.ofList (name.toList.map Char.toLower))

/-- A text without the white space around it. -/
def trimmed (text : String) : String :=
  let drop := fun cs : List Char => cs.dropWhile isSpace
  String.ofList (drop (drop text.toList).reverse).reverse

/-- Adds a directive, in the place of one for the same parts of the program. -/
def addDirective (d : LogDirective) : List LogDirective → List LogDirective
  | [] => [d]
  | e :: es => if e.target = d.target then d :: es else e :: addDirective d es

/-- The directive that a text gives; an error message if it gives none. -/
def readDirective (text : String) : Except String LogDirective :=
  match text.splitOn "=" with
  | [name] =>
    match rankOfName? name with
    | some rank => .ok ⟨none, rank⟩
    | none => .ok ⟨some name, LogLevel.trace.rank⟩
  | [name, level] =>
    let level := trimmed level
    if level.isEmpty then .ok ⟨some name, LogLevel.trace.rank⟩
    else
      match rankOfName? level with
      | some rank => .ok ⟨some name, rank⟩
      | none => .error ("invalid logging spec '" ++ level ++ "'")
  | _ => .error ("invalid logging spec '" ++ text ++ "'")

/-- Reads directives, and collects the error messages of those that are none. -/
def readDirectives : List String → List LogDirective × List String
  | [] => ([], [])
  | text :: rest =>
    let (directives, errors) := readDirectives rest
    let text := trimmed text
    if text.isEmpty then (directives, errors)
    else
      match readDirective text with
      | .ok d => (d :: directives, errors)
      | .error e => (directives, e :: errors)

/-- The filter that a text gives, and what is wrong with the text. -/
def LogFilter.read (text : String) : LogFilter × List String :=
  let ofDirectives (spec : String) : List LogDirective × List String :=
    let (directives, errors) := readDirectives (spec.splitOn ",")
    (directives.foldl (fun ds d => addDirective d ds) [], errors)
  match text.splitOn "/" with
  | [spec] =>
    let (directives, errors) := ofDirectives spec
    (⟨directives, none⟩, errors)
  | [spec, pattern] =>
    let (directives, errors) := ofDirectives spec
    match Pattern.compileWithin Pattern.defaultSizeLimit pattern with
    | .ok p => (⟨directives, some p⟩, errors)
    | .error e => (⟨directives, none⟩, errors ++ ["invalid regex filter - " ++ e.message])
  | _ => (⟨[], none⟩, ["invalid logging spec '" ++ text ++ "' (too many '/'s)"])

/-- Sets the level for parts of the program that no directive names. -/
def LogFilter.withLevel (f : LogFilter) (rank : Nat) : LogFilter :=
  { f with directives := addDirective ⟨none, rank⟩ f.directives }

/-- The number of bytes of the name in a directive. -/
def LogDirective.weight (d : LogDirective) : Nat := d.target.elim 0 String.utf8ByteSize

/-- Whether a directive is about a part of the program. -/
def LogDirective.concerns (d : LogDirective) (target : String) : Bool :=
  d.target.all fun name => target.startsWith name

/-- The later of two directives unless the earlier one has a longer name. -/
def LogDirective.prefer (best : Option LogDirective) (d : LogDirective) : Option LogDirective :=
  match best with
  | some b => if b.weight ≤ d.weight then some d else some b
  | none => some d

/-- The least important level that is shown of a part of the program: that of the directive with the
longest name among those about it. Without directives only errors are shown. -/
def LogFilter.rankFor (f : LogFilter) (target : String) : Nat :=
  if f.directives.isEmpty then LogLevel.error.rank
  else ((f.directives.filter (·.concerns target)).foldl LogDirective.prefer none).elim 0 (·.rank)

/-- Whether a record is shown. -/
def LogFilter.admits (f : LogFilter) (e : LogEntry) : Bool :=
  e.level.rank ≤ f.rankFor e.target &&
    f.pattern.all fun p => (p.find? e.message.toList.toArray 0).isSome

/-- A record as lines: its level, padded to five characters, and its message, of which further lines
are indented. -/
def logLines (e : LogEntry) : String :=
  let name := e.level.name ++ String.ofList (List.replicate (5 - e.level.name.length) ' ')
  "[" ++ name ++ "] " ++ "\n    ".intercalate (e.message.splitOn "\n") ++ "\n"

end Fieldwise.Cli
