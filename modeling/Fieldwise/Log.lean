/-!
# Log records

What the library reports on its way is a value: an action that logs yields the records together with
its result. Records are kept in the order in which they were made.
-/

namespace Fieldwise

/-- How important a record is. -/
inductive LogLevel where
  | error
  | warn
  | info
  | debug
  | trace
  deriving BEq, DecidableEq, Repr

/-- The level's name. -/
def LogLevel.name : LogLevel → String
  | .error => "ERROR"
  | .warn => "WARN"
  | .info => "INFO"
  | .debug => "DEBUG"
  | .trace => "TRACE"

/-- The rank of a level: the more detailed, the higher. -/
def LogLevel.rank : LogLevel → Nat
  | .error => 1
  | .warn => 2
  | .info => 3
  | .debug => 4
  | .trace => 5

/-- A record: its level, the part of the program that made it, and what it says. -/
structure LogEntry where
  level : LogLevel
  target : String
  message : String
  deriving BEq, DecidableEq, Repr

/-- Records, the first one first. -/
abbrev Log := List LogEntry

/-- Actions that log, above another monad. -/
abbrev LoggingT (m : Type → Type) := StateT Log m

/-- Actions that log. -/
abbrev Logging := LoggingT Id

/-- Actions that log and may fail. What was logged before a failure is kept. -/
abbrev Attempt (ε : Type) := ExceptT ε Logging

/-! ### The parts of the program that log -/

namespace LogTarget

/-- Compiling rules. -/
def compiler : String := "fieldsub_core::compiler"

/-- Building rule sets. -/
def builder : String := "fieldsub_core::builder"

/-- Applying rule sets. -/
def engine : String := "fieldsub_core::engine"

/-- Reporting on values and failures. -/
def diagnostics : String := "fieldsub_core::diagnostics"

/-- Records of rule sets. -/
def record : String := "fieldsub_core::record"

/-- Rule files. -/
def config : String := "fieldsub_core::config"

end LogTarget

/-- Makes a record. -/
def log {m : Type → Type} [MonadStateOf Log m] (level : LogLevel) (target message : String) : m Unit :=
  modifyThe Log (· ++ [⟨level, target, message⟩])

/-- An attempt that has its result already and logs nothing. -/
def Attempt.ofExcept {ε α : Type} (result : Except ε α) : Attempt ε α := ExceptT.mk (pure result)

/-- Changes what an attempt fails with. -/
def Attempt.mapError {ε ε' α : Type} (f : ε → ε') (attempt : Attempt ε α) : Attempt ε' α :=
  ExceptT.adapt f attempt

/-- Runs an action from an empty log. -/
def Logging.run' {α : Type} (action : Logging α) : α × Log := StateT.run action []

/-- Runs an action that may fail from an empty log. -/
def Attempt.run' {ε α : Type} (action : Attempt ε α) : Except ε α × Log :=
  StateT.run (ExceptT.run action) []

end Fieldwise
